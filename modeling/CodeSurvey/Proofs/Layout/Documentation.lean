import CodeSurvey.Layout.Infer
import CodeSurvey.Proofs.Quantity
import Mathlib.Algebra.Order.BigOperators.Group.List

/-!
# How well a project is documented

Comments are counted in a few files of each kind, and what cannot be read is left out. On exact
numbers the outcome is the mean of the comment ratios of the files that were read, which is a part
of one. The points for documents, comments and descriptions add up, and none of them is lost as
there is more of anything.

## Main definitions

* `commentShares read sample`: the comment ratios of the files that can be read.
* `Surroundings.DocumentedIn e e'`: all documents and descriptions of `e` are in `e'` too.
-/

namespace CodeSurvey

/-! ## The sample -/

section Sample

variable {limit : Int} {files suffixes : List Text} {s : Text}

theorem length_documentationSample_le (h : 0 ≤ limit) (files : List Text) :
    ((documentationSample limit files).length : Int) ≤ limit := by
  obtain ⟨n, rfl⟩ := Int.eq_ofNat_of_zero_le h
  rw [documentationSample, Text.upTo_natCast]
  exact_mod_cast List.length_take_le n _

/-- The files of different suffixes are different, so that a suffix has no more of them than are
taken of it alone. -/
theorem countP_suffix_flatMap_le (hnodup : suffixes.Nodup) (files : List Text) (k : Nat)
    (s : Text) :
    (suffixes.flatMap fun t => (files.filter fun p => Path.suffix p == t).take k).countP
      (fun p => Path.suffix p == s) ≤ k := by
  induction suffixes with
  | nil => simp
  | cons t rest ih =>
      obtain ⟨ht, hrest⟩ := List.nodup_cons.1 hnodup
      rw [List.flatMap_cons, List.countP_append]
      by_cases hts : t = s
      · subst hts
        have hfirst : ((files.filter fun p => Path.suffix p == t).take k).countP
            (fun p => Path.suffix p == t) ≤ k :=
          List.countP_le_length.trans (List.length_take_le k _)
        have hothers : (rest.flatMap fun u =>
            (files.filter fun p => Path.suffix p == u).take k).countP
              (fun p => Path.suffix p == t) = 0 := by
          refine List.countP_eq_zero.2 fun p hp => ?_
          obtain ⟨u, hu, hp⟩ := List.mem_flatMap.1 hp
          have hsuffix := (List.mem_filter.1 (List.mem_of_mem_take hp)).2
          simp only [beq_iff_eq] at hsuffix ⊢
          rintro rfl
          exact ht (hsuffix ▸ hu)
        omega
      · have hfirst : ((files.filter fun p => Path.suffix p == t).take k).countP
            (fun p => Path.suffix p == s) = 0 := by
          refine List.countP_eq_zero.2 fun p hp => ?_
          have hsuffix := (List.mem_filter.1 (List.mem_of_mem_take hp)).2
          simp only [beq_iff_eq] at hsuffix ⊢
          exact hsuffix ▸ hts
        have := ih hrest
        omega

theorem countP_suffix_documentationSample_le (limit : Int) (files : List Text) (s : Text) :
    (documentationSample limit files).countP (fun p => Path.suffix p == s) ≤ samplesPerSuffix := by
  have hnodup : sampledSuffixes.Nodup := by decide
  exact ((Text.upTo_sublist _ _).countP_le).trans (countP_suffix_flatMap_le hnodup files _ s)

theorem mem_documentationSample {p : Text} (h : p ∈ documentationSample limit files) :
    p ∈ files ∧ Path.suffix p ∈ sampledSuffixes := by
  obtain ⟨s, hs, hp⟩ := List.mem_flatMap.1 ((Text.upTo_sublist _ _).mem h)
  obtain ⟨hmem, hsuffix⟩ := List.mem_filter.1 (List.mem_of_mem_take hp)
  exact ⟨hmem, (eq_of_beq hsuffix) ▸ hs⟩

end Sample

/-! ## The mean -/

section Mean

variable {read read' : Text → Except ReadFailure Text} {limit : Int} {files : List Text} {q : Rat}

/-- The comment ratios of the files of a sample that can be read, as exact numbers. -/
def commentShares (read : Text → Except ReadFailure Text) (sample : List Text) : List Rat :=
  sample.filterMap fun p => (read p).toOption.map fun t =>
    (commentCount (.ofLanguage (Language.ofPath p)) t : Rat) / ((Text.lines t).length : Rat)

theorem sampledCommentRatio_rat (read : Text → Except ReadFailure Text) (limit : Int)
    (files : List Text) :
    let shares := commentShares read (documentationSample limit files)
    (sampledCommentRatio read limit files : Option Rat) =
      if shares = [] then none else some (shares.sum / (shares.length : Rat)) := by
  intro shares
  have hshares : ((documentationSample limit files).filterMap fun p =>
      (read p).toOption.map (commentRatio p) : List Rat) = shares := rfl
  simp only [sampledCommentRatio, hshares, List.isEmpty_iff, Quantity.sum_rat]

theorem commentShares_eq_nil_iff {sample : List Text} :
    commentShares read sample = [] ↔ ∀ p ∈ sample, (read p).isOk = false := by
  simp only [commentShares, List.filterMap_eq_nil_iff, Option.map_eq_none_iff]
  refine forall_congr' fun p => imp_congr_right fun _ => ?_
  cases read p <;> simp [Except.toOption, Except.isOk, Except.toBool]

theorem commentShares_congr {sample : List Text} (h : ∀ p ∈ sample, read' p = read p) :
    commentShares read' sample = commentShares read sample :=
  List.filterMap_congr fun p hp => by rw [h p hp]

/-- Comments are some of the lines, of which every text has one. -/
theorem mem_commentShares {sample : List Text} (h : q ∈ commentShares read sample) :
    0 ≤ q ∧ q ≤ 1 := by
  obtain ⟨p, -, hp⟩ := List.mem_filterMap.1 h
  obtain ⟨t, -, rfl⟩ := Option.map_eq_some_iff.1 hp
  have hle : commentCount (.ofLanguage (Language.ofPath p)) t ≤ (Text.lines t).length :=
    List.countP_le_length
  constructor
  · exact div_nonneg (Nat.cast_nonneg _) (Nat.cast_nonneg _)
  · exact div_le_one_of_le₀ (by exact_mod_cast hle) (Nat.cast_nonneg _)

/-- A mean of parts is a part. -/
theorem mean_mem_unit {qs : List Rat} (h : ∀ q ∈ qs, 0 ≤ q ∧ q ≤ 1) :
    0 ≤ qs.sum / (qs.length : Rat) ∧ qs.sum / (qs.length : Rat) ≤ 1 := by
  have hnonneg : 0 ≤ qs.sum := List.sum_nonneg fun q hq => (h q hq).1
  have hle : qs.sum ≤ (qs.length : Rat) := by
    have := List.sum_le_card_nsmul qs 1 fun q hq => (h q hq).2
    simpa using this
  exact ⟨div_nonneg hnonneg (Nat.cast_nonneg _), div_le_one_of_le₀ hle (Nat.cast_nonneg _)⟩

end Mean

/-! ## Levels -/

section Levels

variable {e e' : Surroundings} {ratio ratio' : Option Rat}

/-- More points do not lower the level. -/
theorem DocumentationLevel.rank_ofScore_le {m n : Nat} (h : m ≤ n) :
    (ofScore m).rank ≤ (ofScore n).rank := by
  simp only [ofScore]
  split_ifs <;> simp only [rank] <;> omega

theorem if_le_if {n : Nat} {b b' : Bool} (h : b = true → b' = true) :
    (if b then n else 0) ≤ if b' then n else 0 := by
  cases b
  · simp
  · simp [h]

/-- Whether some surroundings have all documents and descriptions that others have. -/
structure Surroundings.DocumentedIn (e e' : Surroundings) : Prop where
  documents : ∀ m ∈ readmeFiles ++ auxiliaryDocs, e.hasMarker m = true → e'.hasMarker m = true
  description : e.package.description ≠ [] ∨ e.python.description ≠ [] →
    e'.package.description ≠ [] ∨ e'.python.description ≠ []
  keywords : e.package.keywords ≠ [] ∨ e.python.keywords ≠ [] →
    e'.package.keywords ≠ [] ∨ e'.python.keywords ≠ []

theorem any_below_of_le (h : ∀ q, ratio = some q → ∃ q', ratio' = some q' ∧ q ≤ q') (bound : Rat)
    (hratio : ratio.any (Quantity.below bound) = true) :
    ratio'.any (Quantity.below bound) = true := by
  cases hq : ratio with
  | none => simp [hq] at hratio
  | some q =>
      obtain ⟨q', hq', hle⟩ := h q hq
      simp only [hq, Option.any_some, Quantity.below_rat, decide_eq_true_eq] at hratio
      simpa [hq'] using hratio.trans_le hle

/-- With more documents, more descriptions and no fewer comments there are no fewer points. -/
theorem documentationScore_le (h : e.DocumentedIn e')
    (hratio : ∀ q, ratio = some q → ∃ q', ratio' = some q' ∧ q ≤ q') :
    documentationScore e ratio ≤ documentationScore e' ratio' := by
  have hreadme : readmeFiles.any e.hasMarker = true → readmeFiles.any e'.hasMarker = true := by
    simp only [List.any_eq_true]
    rintro ⟨m, hm, hmarker⟩
    exact ⟨m, hm, h.documents m (List.mem_append_left _ hm) hmarker⟩
  have hdocs : auxiliaryDocs.countP e.hasMarker ≤ auxiliaryDocs.countP e'.hasMarker :=
    List.countP_mono_left fun m hm => h.documents m (List.mem_append_right _ hm)
  have hdescription : (!e.package.description.isEmpty || !e.python.description.isEmpty) = true →
      (!e'.package.description.isEmpty || !e'.python.description.isEmpty) = true := by
    simpa using h.description
  have hkeywords : (!e.package.keywords.isEmpty || !e.python.keywords.isEmpty) = true →
      (!e'.package.keywords.isEmpty || !e'.python.keywords.isEmpty) = true := by
    simpa using h.keywords
  simp only [documentationScore]
  gcongr ?_ + ?_ + ?_ + ?_ + ?_ + ?_
  · exact if_le_if hreadme
  · exact if_le_if (any_below_of_le hratio _)
  · exact if_le_if (any_below_of_le hratio _)
  · exact if_le_if hdescription
  · exact if_le_if hkeywords

end Levels

/-! ## Repositories -/

/-- With a limit that is no less than nothing, no more files are read than the limit says and no
more than three of a suffix, all of them among the given ones, and the ratio depends on no other
file. There is none exactly if none of these files can be read; otherwise it is the mean of the
comment ratios of those that can, which is between nothing and one. The level of another project is
no lower if its ratio is not and if it has all documents, a description and keywords wherever the
first has them. -/
theorem documentation_measured_and_graded (fs : FileSystem) (root : Location) (s : Settings)
    (files : List Text) (hlimit : 0 ≤ s.documentationSampleLimit) :
    let limit := s.documentationSampleLimit
    let read := fs.readSource root (some s.maxFileSize)
    let sample := documentationSample limit files
    let shares := commentShares read sample
    let ratio : Option Rat := sampledCommentRatio read limit files
    ((sample.length : Int) ≤ limit ∧
      (∀ suffix ∈ sampledSuffixes, sample.countP (fun p => Path.suffix p == suffix) ≤ 3) ∧
      (∀ p ∈ sample, p ∈ files ∧ Path.suffix p ∈ sampledSuffixes) ∧
      ∀ read', (∀ p ∈ sample, read' p = read p) → sampledCommentRatio read' limit files = ratio) ∧
    (ratio = none ↔ ∀ p ∈ sample, (read p).isOk = false) ∧
    (∀ q, ratio = some q → q = shares.sum / (shares.length : Rat) ∧ 0 ≤ q ∧ q ≤ 1) ∧
    ∀ (fs' : FileSystem) (root' : Location) (s' : Settings) (files' : List Text)
      (package package' : PackageManifest) (python python' : PythonManifest),
      let ratio' : Option Rat := sampledCommentRatio (fs'.readSource root' (some s'.maxFileSize))
        s'.documentationSampleLimit files'
      let e : Surroundings := ⟨package, python, fs.hasMarker root⟩
      let e' : Surroundings := ⟨package', python', fs'.hasMarker root'⟩
      e.DocumentedIn e' → (∀ q, ratio = some q → ∃ q', ratio' = some q' ∧ q ≤ q') →
        (Layout.ofSurroundings e ratio).documentation.rank ≤
          (Layout.ofSurroundings e' ratio').documentation.rank := by
  intro limit read sample shares ratio
  have hratio : ratio = if shares = [] then none else some (shares.sum / (shares.length : Rat)) :=
    sampledCommentRatio_rat read limit files
  refine ⟨⟨length_documentationSample_le hlimit files, fun suffix _ =>
    countP_suffix_documentationSample_le limit files suffix, fun p hp => mem_documentationSample hp,
    fun read' hread => ?_⟩, ?_, fun q hq => ?_, ?_⟩
  · have hread' := sampledCommentRatio_rat read' limit files
    rw [commentShares_congr hread] at hread'
    exact hread'.trans hratio.symm
  · rw [hratio, ← commentShares_eq_nil_iff]
    split
    · rename_i hnil
      exact iff_of_true rfl hnil
    · rename_i hne
      exact iff_of_false (by simp) hne
  · rw [hratio] at hq
    split at hq
    · contradiction
    · obtain rfl := Option.some.inj hq
      exact ⟨rfl, mean_mem_unit fun q => mem_commentShares⟩
  · intro fs' root' s' files' package package' python python' ratio' e e' hdocumented hle
    exact DocumentationLevel.rank_ofScore_le (documentationScore_le hdocumented hle)

/-- A project with an introduction, a commented file and one that is no text. -/
def introduced : FileSystem where
  top := [("README.md", .file ⟨#[]⟩), ("a.py", .file ⟨#[35, 10, 120]⟩), ("b.py", .file ⟨#[0]⟩)]

/-- The same with a licence and with comments alone. -/
def licensed : FileSystem where
  top := [("README.md", .file ⟨#[]⟩), ("LICENSE", .file ⟨#[]⟩), ("a.py", .file ⟨#[35]⟩)]

/-- Half of the only file that can be read are comments, which are fewer than in the second project.
With a licence and a description it is a level higher. -/
theorem documentation_of_licensed :
    let read := introduced.readSource [] (some Settings.standard.maxFileSize)
    let read' := licensed.readSource [] (some Settings.standard.maxFileSize)
    let limit := Settings.standard.documentationSampleLimit
    let ratio : Option Rat := sampledCommentRatio read limit ["a.py", "b.py"]
    let ratio' : Option Rat := sampledCommentRatio read' limit ["a.py"]
    let e : Surroundings := ⟨{}, {}, introduced.hasMarker []⟩
    let e' : Surroundings := ⟨{ description := "x" }, {}, licensed.hasMarker []⟩
    0 ≤ limit ∧ ratio = some (1 / 2) ∧ e.DocumentedIn e' ∧
      (∀ q, ratio = some q → ∃ q', ratio' = some q' ∧ q ≤ q') ∧
      (Layout.ofSurroundings e ratio).documentation = .moderate ∧
      (Layout.ofSurroundings e' ratio').documentation = .good ∧
      (Layout.ofSurroundings e ratio).documentation.rank ≤
        (Layout.ofSurroundings e' ratio').documentation.rank := by
  intro read read' limit ratio ratio' e e'
  have hratio : ratio = some (1 / 2) := by decide +kernel
  have hratio' : ratio' = some 1 := by decide +kernel
  have hlimit : 0 ≤ Settings.standard.documentationSampleLimit := by decide
  have hdocuments : ∀ m ∈ readmeFiles ++ auxiliaryDocs, e.hasMarker m = true →
      e'.hasMarker m = true := by decide +kernel
  have hdocumented : e.DocumentedIn e' := ⟨hdocuments, by simp [e], by simp [e]⟩
  have hle : ∀ q, ratio = some q → ∃ q', ratio' = some q' ∧ q ≤ q' := by
    intro q hq
    obtain rfl := Option.some.inj (hratio.symm.trans hq)
    exact ⟨1, hratio', by decide +kernel⟩
  obtain ⟨-, -, -, hlevels⟩ := documentation_measured_and_graded introduced [] .standard
    ["a.py", "b.py"] hlimit
  refine ⟨hlimit, hratio, hdocumented, hle, by decide +kernel, by decide +kernel, ?_⟩
  exact hlevels licensed [] .standard ["a.py"] {} { description := "x" } {} {} hdocumented hle

end CodeSurvey
