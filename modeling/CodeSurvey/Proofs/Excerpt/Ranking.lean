import CodeSurvey.Proofs.Excerpt.Range
import CodeSurvey.Proofs.Excerpt.Selection
import CodeSurvey.Proofs.Ranking

/-!
# The best excerpts

A category keeps the best of the excerpts that it finds: those with the highest scores, and among
these the first by path and line. No two excerpts of a category begin on the same line of a file, so
that nothing is dropped before the best are taken, the order is strict, and a higher limit only adds
excerpts at the end.

## Main definitions

* `Excerpt.start e`, `Excerpt.key e`: where an excerpt begins, and what excerpts are ranked by.
-/

namespace CodeSurvey

/-! ## Order -/

namespace Excerpt

/-- The file and the line on which an excerpt begins. -/
def start (e : Excerpt) : Text × Nat := (e.path, e.startLine)

/-- What excerpts are ranked by: falling score, then the path, then the first line. -/
def key (e : Excerpt) : Lex (Int × Lex (Text × Nat)) :=
  toLex (-(e.score : Int), toLex (e.path, e.startLine))

theorem ranksBy_key : RanksBy le key := by
  intro a b
  rw [le, key, key, toLex_neg_le_toLex_neg_iff, Prod.Lex.toLex_le_toLex]
  by_cases hscore : a.score = b.score
  · by_cases hpath : a.path = b.path
    · simp [hscore, hpath]
    · simp [hscore, hpath, Text.le_eq_true_iff, le_iff_lt_or_eq]
  · simp [hscore]

end Excerpt

/-- Where all excerpts begin on different lines, none is dropped. -/
theorem dropSameStart_eq_self {es : List Excerpt} (h : (es.map Excerpt.start).Nodup) :
    dropSameStart es = es := by
  -- The fold keeps the excerpts in reverse, in front of those that were kept before.
  have hfold : ∀ kept : List Excerpt, (∀ e ∈ es, ∀ k ∈ kept, e.start ≠ k.start) →
      es.foldl (fun kept e => if kept.any e.sameStart then kept else e :: kept) kept =
        es.reverse ++ kept := by
    induction es with
    | nil => exact fun _ _ => rfl
    | cons e es ih =>
        intro kept hkept
        obtain ⟨he, hes⟩ := List.nodup_cons.1 h
        have hnew : ¬kept.any e.sameStart = true := by
          rw [List.any_eq_true]
          rintro ⟨k, hk, hsame⟩
          refine hkept e List.mem_cons_self k hk ?_
          simpa [Excerpt.sameStart, Excerpt.start] using hsame
        rw [List.foldl_cons, if_neg hnew, ih hes]
        · simp
        · intro e' he' k hk
          rcases List.mem_cons.1 hk with rfl | hk
          · intro heq
            exact he (heq ▸ List.mem_map_of_mem he')
          · exact hkept e' (List.mem_cons_of_mem _ he') k hk
  rw [dropSameStart, hfold [] (by simp)]
  simp

/-! ## One file -/

namespace Category

variable {c : Category} {path t : Text} {e : Excerpt}

/-- All categories but that of functions find at most one excerpt in a file. -/
theorem length_find_le_one (hc : c ≠ function) (path t : Text) : (c.find path t).length ≤ 1 := by
  cases c with
  | function => exact absurd rfl hc
  | config => exact Nat.le_refl 1
  | component | test | api | util =>
      simp only [find, findComponent, findTest, findApi, findUtil]
      split
      · exact Nat.zero_le 1
      · exact Nat.le_refl 1
  | model =>
      simp only [find, findModel, findPrismaModel]
      split
      all_goals
        split
        · exact Nat.zero_le 1
        · exact Nat.le_refl 1

/-- The excerpts that a category finds in a file begin on different lines. -/
theorem nodup_starts_find (c : Category) (path t : Text) :
    ((c.find path t).map Excerpt.start).Nodup := by
  by_cases hc : c = function
  · subst hc
    have hlines := (picked_pickFunctions t (declaredFunctions (isPython path) t)).nodup_lines
    rw [List.Nodup, List.pairwise_map] at hlines
    rw [find, findFunctions, List.map_map, List.Nodup, List.pairwise_map]
    refine hlines.imp fun hne heq => ?_
    simp only [Function.comp_apply, Excerpt.start, startLine_functionExcerpt, Prod.mk.injEq] at heq
    omega
  · have hlength := length_find_le_one hc path t
    rcases hfind : c.find path t with _ | ⟨e, _ | ⟨e', es⟩⟩
    · simp
    · simp
    · simp [hfind] at hlength

theorem category_of_mem_find (h : e ∈ c.find path t) : e.category = c := by
  cases c with
  | function =>
      obtain ⟨pick, -, rfl⟩ := List.mem_map.1 h
      rfl
  | config =>
      rw [List.mem_singleton.1 h]
      rfl
  | component | test | api | util =>
      simp only [find, findComponent, findTest, findApi, findUtil] at h
      split at h
      · simp at h
      · rw [List.mem_singleton.1 h]
        rfl
  | model =>
      simp only [find, findModel, findPrismaModel] at h
      split at h
      all_goals
        split at h
        · simp at h
        · rw [List.mem_singleton.1 h]
          rfl

end Category

/-! ## All files -/

section Files

variable {s : Settings} {read : Text → Except ReadFailure Text} {files : List Text} {c : Category}
  {e : Excerpt}

theorem path_of_mem_find {p t : Text} (h : e ∈ c.find p t) : e.path = p :=
  (Category.shown_of_mem_find h).path_eq

/-- The excerpts that a category finds in different files begin on different lines. -/
theorem nodup_starts_gatherExcerpts (hfiles : files.Nodup) :
    ((gatherExcerpts s read c files).map Excerpt.start).Nodup := by
  have hsample : (sampledCandidates s c files).Nodup :=
    hfiles.sublist ((Text.upTo_sublist _ _).trans List.filter_sublist)
  rw [gatherExcerpts, List.map_flatMap, List.nodup_flatMap]
  constructor
  · intro p _
    cases read p with
    | error failure => simp
    | ok t => exact Category.nodup_starts_find c p t
  · refine hsample.imp fun {p p'} hne start hstart hstart' => hne ?_
    obtain ⟨e, he, rfl⟩ := List.mem_map.1 hstart
    obtain ⟨e', he', heq⟩ := List.mem_map.1 hstart'
    split at he
    · split at he'
      · rw [← path_of_mem_find he, ← path_of_mem_find he']
        exact (congrArg Prod.fst heq).symm
      · simp at he'
    · simp at he

theorem nodup_keys_gatherExcerpts (hfiles : files.Nodup) :
    ((gatherExcerpts s read c files).map Excerpt.key).Nodup :=
  nodup_keys_of_part (fun k => ofLex (ofLex k).2) (fun _ => rfl)
    (nodup_starts_gatherExcerpts hfiles)

/-- A category takes the first of what it finds in order, as nothing is found twice. -/
theorem selectExcerpts_eq_take (hfiles : files.Nodup) (hk : 0 < s.maxExamples) :
    selectExcerpts s read files c =
      ((gatherExcerpts s read c files).mergeSort Excerpt.le).take s.maxExamples.toNat := by
  rw [selectExcerpts, if_neg (by omega), dropSameStart_eq_self (nodup_starts_gatherExcerpts hfiles)]

end Files

/-- Of the excerpts that a category finds in the first of its files, all of them different, it keeps
as many as it may: the first ones by falling score, path and line, in strict order. With a higher
limit it keeps the same excerpts and perhaps more after them. -/
theorem ExcerptSet.select_keeps_first_by_key (fs : FileSystem) (root : Location) (s : Settings)
    {files : List Text} (hfiles : files.Nodup) (hn : 0 ≤ s.qualitySampleLimit)
    (hk : 0 < s.maxExamples) (c : Category) :
    let read := fs.readSource root (some s.maxFileSize)
    let found := gatherExcerpts s read c files
    let kept := (ExcerptSet.select s read files).get c
    (found.Nodup ∧ ∀ e, e ∈ found ↔
      ∃ p ∈ (c.candidates files).take s.qualitySampleLimit.toNat, ∃ t, read p = .ok t ∧
        e ∈ c.find p t) ∧
    (kept.map Excerpt.key).Pairwise (· < ·) ∧
    kept.length = min s.maxExamples.toNat found.length ∧
    (∀ e ∈ kept, e ∈ found ∧ e.category = c) ∧
    (∀ e ∈ found, e ∉ kept → ∀ e' ∈ kept, e'.key < e.key) ∧
    ∀ k, s.maxExamples ≤ k →
      kept <+: (ExcerptSet.select { s with maxExamples := k } read files).get c := by
  intro read found kept
  have hkeys : (found.map Excerpt.key).Nodup := nodup_keys_gatherExcerpts hfiles
  have hkept : kept = (found.mergeSort Excerpt.le).take s.maxExamples.toNat := by
    simp only [kept, ExcerptSet.select, ExcerptSet.get_ofCategories]
    exact selectExcerpts_eq_take hfiles hk
  have hsample : sampledCandidates s c files =
      (c.candidates files).take s.qualitySampleLimit.toNat := by
    rw [sampledCandidates, ← Int.toNat_of_nonneg hn, Text.upTo_natCast, Int.toNat_natCast]
  refine ⟨⟨hkeys.of_map _, fun e => hsample ▸ mem_gatherExcerpts⟩, ?_, ?_, fun e he => ?_,
    fun e he hout e' he' => ?_, fun k hle => ?_⟩
  · rw [hkept, List.map_take]
    exact (Excerpt.ranksBy_key.pairwise_mergeSort_lt hkeys).sublist (List.take_sublist _ _)
  · rw [hkept, List.length_take, List.length_mergeSort]
  · have hfound : e ∈ found := by
      rw [hkept] at he
      exact List.mem_mergeSort.1 (List.mem_of_mem_take he)
    obtain ⟨p, -, t, -, hfind⟩ := mem_gatherExcerpts.1 hfound
    exact ⟨hfound, Category.category_of_mem_find hfind⟩
  · rw [hkept] at hout he'
    exact Excerpt.ranksBy_key.lt_of_not_mem_take hkeys he' he hout
  · have hmore : (ExcerptSet.select { s with maxExamples := k } read files).get c =
        (found.mergeSort Excerpt.le).take k.toNat := by
      rw [ExcerptSet.select, ExcerptSet.get_ofCategories]
      exact selectExcerpts_eq_take hfiles (hk.trans_le hle)
    rw [hkept, hmore]
    exact List.take_prefix_take_left (Int.toNat_le_toNat hle)

/-- Two files of settings. -/
def configured : FileSystem where
  top := [("setup.cfg", .file ⟨#[91, 97, 93]⟩), ("tox.ini", .file ⟨#[91, 98, 93]⟩)]

/-- Of the excerpts of both files one is kept where one is to be kept, and it is the first of those
that are kept otherwise. -/
theorem kept_of_configured :
    let s := { Settings.standard with maxExamples := 1 }
    let read := configured.readSource [] (some s.maxFileSize)
    let files : List Text := ["setup.cfg", "tox.ini"]
    let found := gatherExcerpts s read .config files
    let kept := (ExcerptSet.select s read files).get .config
    (files.Nodup ∧ 0 ≤ s.qualitySampleLimit ∧ 0 < s.maxExamples) ∧
      found.length = 2 ∧ kept.length = 1 ∧
      (∀ e ∈ found, e ∉ kept → ∀ e' ∈ kept, e'.key < e.key) ∧
      kept <+: (ExcerptSet.select .standard read files).get .config := by
  intro s read files found kept
  have hfiles : files.Nodup := by decide +kernel
  have hn : 0 ≤ s.qualitySampleLimit := by decide
  have hk : 0 < s.maxExamples := by decide
  have hfound : found.length = 2 := by decide +kernel
  obtain ⟨-, -, hlength, -, hout, hprefix⟩ :=
    ExcerptSet.select_keeps_first_by_key configured [] s hfiles hn hk .config
  refine ⟨⟨hfiles, hn, hk⟩, hfound, ?_, hout, hprefix 5 (by decide)⟩
  rw [hlength, hfound]
  decide

end CodeSurvey
