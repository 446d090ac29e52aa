import CodeSurvey.Proofs.Path.Stem
import CodeSurvey.Proofs.Quantity
import CodeSurvey.Technology.Detect
import Mathlib.Algebra.BigOperators.Group.List.Basic
import Mathlib.Data.List.Nodup
import Mathlib.Data.List.Pairwise

/-!
# Languages by the number of their files

A file belongs to at most one language, told by what stands behind the last point of its name. A
language is listed exactly if some files belong to it. Its evidence names the number of these files,
in which a file that is given twice counts twice, and its confidence is a tenth of that number, as
far as the ceiling of the language lets it rise. In whatever order the files are given, the same
languages are listed.

## Main definitions

* `LanguageRule.Tells r p`: whether the file `p` belongs to the language of `r`.
* `LanguageRule.filesIn r files`: the number of files that do.
* `Technology.countNamed t`: the number that the evidence for `t` names.
* `LanguageRule.Reports r files t`: what is said of a language that is listed.
-/

namespace CodeSurvey

/-! ## Counts -/

theorem countP_or_of_exclusive {α : Type} {p q : α → Bool} (h : ∀ a, p a = true → q a = false)
    (as : List α) : as.countP (fun a => p a || q a) = as.countP p + as.countP q := by
  induction as with
  | nil => rfl
  | cons a as ih =>
      simp only [List.countP_cons, ih]
      cases hp : p a with
      | false => simp [Nat.add_assoc]
      | true =>
          simp only [h a hp, Bool.or_false, if_true, Bool.false_eq_true, if_false]
          omega

/-- Counts under conditions that exclude each other add up to the count of what meets any of them.
-/
theorem sum_countP_of_pairwise {ι α : Type} {meets : ι → α → Bool} {is : List ι}
    (h : is.Pairwise fun i j => ∀ a, meets i a = true → meets j a = false) (as : List α) :
    (is.map fun i => as.countP (meets i)).sum = as.countP fun a => is.any (meets · a) := by
  induction is with
  | nil => simp
  | cons i is ih =>
      obtain ⟨hi, his⟩ := List.pairwise_cons.1 h
      have hexclusive : ∀ a, meets i a = true → is.any (meets · a) = false := by
        intro a ha
        rw [List.any_eq_false]
        exact fun j hj => by simp [hi j hj a ha]
      rw [List.map_cons, List.sum_cons, ih his]
      exact (countP_or_of_exclusive hexclusive as).symm

/-! ## Files of a language -/

namespace LanguageRule

variable {r : LanguageRule} {files files' : List Text} {p : Text}

/-- Whether a file belongs to the language of a rule: something stands before the last point of its
name and something behind it, and from that point on the name is, in small letters, one of the
suffixes of the rule. -/
def Tells (r : LanguageRule) (p : Text) : Prop :=
  ∃ stem tail, Path.name p = stem ++ '.' :: tail ∧ stem ≠ [] ∧ tail ≠ [] ∧ '.' ∉ tail ∧
    Text.lower ('.' :: tail) ∈ r.suffixes

theorem tells_iff : r.Tells p ↔ Path.suffix p ≠ [] ∧ Path.lowerSuffix p ∈ r.suffixes := by
  constructor
  · rintro ⟨stem, tail, hname, hstem, htail, hpoint, hmem⟩
    have hsuffix : Path.suffix p = '.' :: tail := by
      rw [Path.suffix, hname, Path.splitName_of_point hstem htail hpoint]
    refine ⟨by simp [hsuffix], ?_⟩
    rwa [Path.lowerSuffix, hsuffix]
  · rintro ⟨hsuffix, hmem⟩
    obtain ⟨tail, hname, hstem, htail, hpoint⟩ := Path.exists_point_of_suffix hsuffix
    have hcut := Path.splitName_of_point hstem htail hpoint
    rw [← hname] at hcut
    refine ⟨_, tail, hname, hstem, htail, hpoint, ?_⟩
    rwa [Path.lowerSuffix, Path.suffix, hcut] at hmem

instance (r : LanguageRule) : DecidablePred r.Tells := fun p =>
  decidable_of_iff ((!(Path.suffix p).isEmpty && r.suffixes.contains (Path.lowerSuffix p)) = true)
    (by simp [tells_iff])

/-- The number of files that belong to the language of a rule. -/
def filesIn (r : LanguageRule) (files : List Text) : Nat := files.countP fun p => r.Tells p

theorem filesIn_eq_zero_iff : r.filesIn files = 0 ↔ ∀ p ∈ files, ¬r.Tells p := by
  simp [filesIn, List.countP_eq_zero]

/-- What the suffixes are counted for is the number of files, as no suffix is given twice. -/
theorem count_suffixesOf (h : r.suffixes.Nodup) : r.count (suffixesOf files) = r.filesIn files := by
  have hpairwise : r.suffixes.Pairwise fun s s' : Text =>
      ∀ a : Text, (a == s) = true → (a == s') = false := by
    refine h.imp fun hne a ha => ?_
    rw [beq_iff_eq.1 ha]
    simpa using hne
  have hsum := sum_countP_of_pairwise hpairwise (suffixesOf files)
  rw [count, ← List.sum_eq_foldr, filesIn]
  refine Eq.trans hsum ?_
  rw [suffixesOf, List.countP_map, List.countP_filter]
  refine List.countP_congr fun p _ => ?_
  simp [tells_iff, and_comm]

theorem filter_contains_suffixesOf_eq_nil_iff :
    r.suffixes.filter (suffixesOf files).contains = [] ↔ r.filesIn files = 0 := by
  rw [filesIn_eq_zero_iff, List.filter_eq_nil_iff]
  simp only [suffixesOf, List.contains_iff_mem, List.mem_map, List.mem_filter, tells_iff]
  constructor
  · rintro h p hp ⟨hsuffix, hmem⟩
    exact h _ hmem ⟨p, ⟨hp, by simpa using hsuffix⟩, rfl⟩
  · rintro h s hs ⟨p, ⟨hp, hsuffix⟩, rfl⟩
    exact h p hp ⟨by simpa using hsuffix, hs⟩

end LanguageRule

/-! ## What is said of a language -/

/-- The number that the evidence for a technology names behind its first word. -/
def Technology.countNamed {α : Type} (t : Technology α) : Nat :=
  Nat.ofDigitChars 10 (((t.evidence.headD []).drop 6).takeWhile Char.isDigit) 0

/-- The evidence for a language: the number of its files and the suffixes that they have. -/
def foundFiles (count : Nat) (suffixes : List Text) : Text :=
  "Found ".toList ++ Text.ofNat count ++ ' ' :: Text.joinWith ", " suffixes ++ " files".toList

theorem foundFiles_eq (count : Nat) (suffixes : List Text) :
    foundFiles count suffixes = "Found ".toList ++ (Text.ofNat count ++
      (' ' :: Text.joinWith ", " suffixes ++ " files".toList)) := by
  refine Eq.trans (List.append_assoc _ _ _) ?_
  rw [List.append_assoc]

theorem countNamed_of_foundFiles {α : Type} {t : Technology α} {count : Nat} {suffixes : List Text}
    (h : t.evidence = [foundFiles count suffixes]) : t.countNamed = count := by
  have hdigits : ∀ c ∈ Text.ofNat count, c.isDigit = true := fun c hc =>
    Nat.isDigit_of_mem_toDigits (by decide) (by decide) hc
  have hread : ((foundFiles count suffixes).drop 6).takeWhile Char.isDigit = Text.ofNat count := by
    have hdrop : (foundFiles count suffixes).drop 6 = Text.ofNat count ++
        (' ' :: Text.joinWith ", " suffixes ++ " files".toList) := by
      rw [foundFiles_eq]
      exact List.drop_left' rfl
    rw [hdrop, List.takeWhile_append_of_pos hdigits]
    simp
  rw [Technology.countNamed, h, List.headD_cons, hread, Text.ofNat, Nat.ofDigitChars_ten_toDigits]

/-- What is said of a language that is listed: how many files belong to it, and how sure that makes
its use. -/
structure LanguageRule.Reports (r : LanguageRule) (files : List Text) (t : Technology Rat) :
    Prop where
  name : t.name = r.name
  evidence : ∃ suffixes, t.evidence = [foundFiles (r.filesIn files) suffixes]
  count : t.countNamed = r.filesIn files
  confidence : t.confidence = min ((r.ceiling : Rat) / 10) ((r.filesIn files : Rat) / 10)

section Detection

variable {α : Type} [Quantity α] {r : LanguageRule} {files files' : List Text}

/-- A language as it is listed. -/
def LanguageRule.entry (α : Type) [Quantity α] (r : LanguageRule) (files : List Text) :
    Technology α where
  name := r.name
  confidence := Quantity.least (Quantity.tenths r.ceiling) (Quantity.ratio (r.filesIn files) 10)
  evidence := [foundFiles (r.filesIn files) (r.suffixes.filter (suffixesOf files).contains)]
  version := none

theorem LanguageRule.reports_entry (r : LanguageRule) (files : List Text) :
    r.Reports files (r.entry Rat files) where
  name := rfl
  evidence := ⟨_, rfl⟩
  count := countNamed_of_foundFiles rfl
  confidence := by
    rw [entry, Quantity.least_rat, Quantity.tenths, Quantity.ratio_rat, Quantity.ratio_rat]
    rfl

theorem LanguageRule.detect?_eq (h : r.suffixes.Nodup) :
    r.detect? (suffixesOf files) =
      if r.filesIn files = 0 then none else some (r.entry α files) := by
  have hfound : (r.suffixes.filter (suffixesOf files).contains).isEmpty = true ↔
      r.filesIn files = 0 := by
    rw [List.isEmpty_iff, filter_contains_suffixesOf_eq_nil_iff]
  rw [detect?, count_suffixesOf h]
  by_cases hzero : r.filesIn files = 0
  · rw [if_pos hzero]
    exact if_pos (hfound.2 hzero)
  · rw [if_neg hzero]
    exact if_neg (mt hfound.1 hzero)

/-- The languages of some rules are those with files, in the order of the rules. -/
theorem filterMap_detect?_eq {rules : List LanguageRule} (h : ∀ r ∈ rules, r.suffixes.Nodup) :
    rules.filterMap (fun r => r.detect? (suffixesOf files)) =
      (rules.filter fun r => r.filesIn files != 0).map fun r => r.entry α files := by
  induction rules with
  | nil => rfl
  | cons r rules ih =>
      obtain ⟨hr, hrules⟩ := List.forall_mem_cons.1 h
      rw [List.filterMap_cons, LanguageRule.detect?_eq hr, List.filter_cons, ih hrules]
      by_cases hzero : r.filesIn files = 0
      · simp [hzero]
      · simp [hzero]

theorem suffixes_nodup_of_mem_languageRules : ∀ r ∈ languageRules, r.suffixes.Nodup := by decide

theorem names_nodup_languageRules : (languageRules.map LanguageRule.name).Nodup := by decide

/-- No suffix is that of two languages. -/
theorem suffixes_disjoint_languageRules :
    languageRules.Pairwise fun r r' => ∀ s ∈ r.suffixes, s ∉ r'.suffixes := by
  decide

theorem detectLanguages_eq (files : List Text) : detectLanguages files =
    (languageRules.filter fun r => r.filesIn files != 0).map fun r => r.entry α files :=
  filterMap_detect?_eq suffixes_nodup_of_mem_languageRules

/-- The order of the files does not matter. -/
theorem detectLanguages_of_perm (h : files.Perm files') :
    (detectLanguages files : List (Technology α)) = detectLanguages files' := by
  have hfiles : ∀ r : LanguageRule, r.filesIn files = r.filesIn files' := fun r => h.countP_eq _
  have hsuffixes : ∀ s, (suffixesOf files).contains s = (suffixesOf files').contains s := by
    intro s
    exact ((h.filter _).map _).contains_eq
  have hentry : ∀ r : LanguageRule, r.entry α files = r.entry α files' := by
    intro r
    rw [LanguageRule.entry, LanguageRule.entry, hfiles, funext hsuffixes]
  rw [detectLanguages_eq, detectLanguages_eq]
  simp only [hfiles, hentry]

/-- No file belongs to two languages. -/
theorem eq_of_tells {r' : LanguageRule} {p : Text} (hr : r ∈ languageRules)
    (hr' : r' ∈ languageRules) (h : r.Tells p) (h' : r'.Tells p) : r = r' := by
  by_contra hne
  have hsymm : Std.Symm fun r r' : LanguageRule => ∀ s ∈ r.suffixes, s ∉ r'.suffixes :=
    ⟨fun _ _ hdisjoint s hs hs' => hdisjoint s hs' hs⟩
  have hdisjoint := suffixes_disjoint_languageRules.forall hr hr' hne
  exact hdisjoint _ (LanguageRule.tells_iff.1 h).2 (LanguageRule.tells_iff.1 h').2

/-- Each file of a language is counted for one language. -/
theorem sum_filesIn_languageRules (files : List Text) :
    (languageRules.map fun r => r.filesIn files).sum =
      files.countP fun p => ∃ r ∈ languageRules, r.Tells p := by
  have hexclusive : languageRules.Pairwise fun r r' => ∀ p,
      decide (r.Tells p) = true → decide (r'.Tells p) = false := by
    refine suffixes_disjoint_languageRules.imp fun hdisjoint p hp => ?_
    rw [decide_eq_true_eq, LanguageRule.tells_iff] at hp
    rw [decide_eq_false_iff_not, LanguageRule.tells_iff]
    exact fun hp' => hdisjoint _ hp.2 hp'.2
  refine Eq.trans (sum_countP_of_pairwise hexclusive files) ?_
  refine List.countP_congr fun p _ => ?_
  simp

end Detection

/-- No file is counted for two languages. A language is listed once if some file belongs to it, and
otherwise not at all; what is said of it is the number of its files, files that are given twice
counted twice, and the confidence that this number makes. The numbers add up to that of the files
that belong to any language, and the order of the files does not matter. -/
theorem languages_count_files (files : List Text) :
    let languages : List (Technology Rat) := detectLanguages files
    (∀ p, ∀ r ∈ languageRules, ∀ r' ∈ languageRules, r.Tells p → r'.Tells p → r = r') ∧
      (languages.map Technology.name).Nodup ∧
      (∀ r ∈ languageRules, r.name ∈ languages.map Technology.name ↔ ∃ p ∈ files, r.Tells p) ∧
      (∀ t ∈ languages, ∃ r ∈ languageRules, r.Reports files t) ∧
      (languages.map Technology.countNamed).sum =
        files.countP (fun p => ∃ r ∈ languageRules, r.Tells p) ∧
      ∀ files', files.Perm files' → detectLanguages files' = languages := by
  intro languages
  have hlanguages : languages = _ := detectLanguages_eq files
  have hnames : languages.map Technology.name =
      (languageRules.filter fun r => r.filesIn files != 0).map LanguageRule.name := by
    rw [hlanguages, List.map_map]
    rfl
  refine ⟨fun p r hr r' hr' => eq_of_tells hr hr', ?_, fun r hr => ?_, fun t ht => ?_, ?_,
    fun files' hperm => (detectLanguages_of_perm hperm).symm⟩
  · rw [hnames]
    exact names_nodup_languageRules.sublist (List.filter_sublist.map _)
  · have hlisted : r.name ∈ languages.map Technology.name ↔ r.filesIn files ≠ 0 := by
      rw [hnames, List.mem_map]
      constructor
      · rintro ⟨r', hr', hname⟩
        rw [List.mem_filter, bne_iff_ne] at hr'
        rw [← List.inj_on_of_nodup_map names_nodup_languageRules hr'.1 hr hname]
        exact hr'.2
      · exact fun hfiles => ⟨r, List.mem_filter.2 ⟨hr, bne_iff_ne.2 hfiles⟩, rfl⟩
    rw [hlisted, ne_eq, LanguageRule.filesIn_eq_zero_iff]
    simp
  · rw [hlanguages, List.mem_map] at ht
    obtain ⟨r, hr, rfl⟩ := ht
    exact ⟨r, (List.mem_filter.1 hr).1, r.reports_entry files⟩
  · have hcounts : languages.map Technology.countNamed =
        (languageRules.map fun r => r.filesIn files).filter (· != 0) := by
      rw [hlanguages, List.map_map, List.filter_map]
      exact List.map_congr_left fun r _ => countNamed_of_foundFiles rfl
    rw [hcounts, List.sum_filter_bne_zero, sum_filesIn_languageRules]

/-- Some files: two of one language in small and in capital letters, one of another that is given
twice, and three names without a suffix. -/
def mixedFiles : List Text :=
  ["app.ts", "view.TSX", "lib/run.py", "lib/run.py", ".js", "notes.", "Makefile"]

/-- The rule for the file that is given twice. -/
def repeatedRule : LanguageRule := ⟨"Python", [".py", ".pyx"], 9⟩

/-- The file that is given twice counts twice, for one language, and the point in front of a name
begins no suffix. -/
theorem languages_of_mixedFiles :
    repeatedRule ∈ languageRules ∧ repeatedRule.Tells "lib/run.py" ∧
      (∀ r ∈ languageRules, r.Tells "lib/run.py" → r = repeatedRule) ∧
      (∃ t ∈ (detectLanguages mixedFiles : List (Technology Rat)),
        t.name = repeatedRule.name ∧ t.countNamed = 2 ∧ t.confidence = 1 / 5) ∧
      "JavaScript".toList ∉ (detectLanguages mixedFiles : List (Technology Rat)).map (·.name) ∧
      ((detectLanguages mixedFiles : List (Technology Rat)).map Technology.countNamed).sum = 4 ∧
      mixedFiles.Perm mixedFiles.reverse ∧
      (detectLanguages mixedFiles.reverse : List (Technology Rat)) =
        detectLanguages mixedFiles := by
  obtain ⟨hone, -, hlisted, hreports, hsum, hperm⟩ := languages_count_files mixedFiles
  have hrule : repeatedRule ∈ languageRules := by decide
  have htells : repeatedRule.Tells "lib/run.py" := by decide +kernel
  have hreverse : mixedFiles.Perm mixedFiles.reverse := (List.reverse_perm _).symm
  refine ⟨hrule, htells, fun r hr h => hone _ r hr _ hrule h htells, ?_, ?_, ?_, hreverse,
    hperm _ hreverse⟩
  · obtain ⟨t, ht, hname⟩ := List.mem_map.1
      ((hlisted repeatedRule hrule).2 ⟨"lib/run.py", by decide, htells⟩)
    obtain ⟨r, hr, h⟩ := hreports t ht
    obtain rfl : r = repeatedRule :=
      List.inj_on_of_nodup_map names_nodup_languageRules hr hrule (h.name.symm.trans hname)
    have hfiles : repeatedRule.filesIn mixedFiles = 2 := by decide +kernel
    refine ⟨t, ht, hname, h.count.trans hfiles, ?_⟩
    rw [h.confidence, hfiles]
    decide +kernel
  · have hscript : (⟨"JavaScript", [".js", ".jsx", ".mjs"], 9⟩ : LanguageRule) ∈ languageRules := by
      decide
    refine fun hmem => absurd ((hlisted _ hscript).1 hmem) ?_
    decide +kernel
  · rw [hsum]
    decide +kernel

end CodeSurvey
