import CodeSurvey.Proofs.Quality.Copies

/-!
# Where sources stand

The figures are made of counts that are added up over the sources, and of the keys of windows, which
are counted and not looked at. They therefore depend on the sources alone, each given by its
language and its text: not on the order in which the sources are read, nor on the paths at which
they stand. Files may be moved and renamed, and files that cannot be read may be added.

## Main definitions

* `codeTexts read files`: the files of code that can be read, as languages and texts.
* `Rearranged read read' move added files files'`: files are moved, and others are added that
  cannot be read.
* `SourceCounts.Matches a b`: the counts differ at most in the order of their keys.
-/

namespace CodeSurvey

/-! ## Counts -/

namespace SourceCounts

/-- Whether two counts differ at most in the order of their keys. -/
structure Matches (a b : SourceCounts) : Prop where
  files : a.files = b.files
  lines : a.lines = b.lines
  bytes : a.bytes = b.bytes
  comments : a.comments = b.comments
  cyclomatic : a.cyclomatic = b.cyclomatic
  cognitive : a.cognitive = b.cognitive
  keys : a.keys.Perm b.keys

namespace Matches

variable {a b c : SourceCounts}

theorem refl (a : SourceCounts) : a.Matches a := ⟨rfl, rfl, rfl, rfl, rfl, rfl, .refl _⟩

theorem trans (h : a.Matches b) (h' : b.Matches c) : a.Matches c where
  files := h.files.trans h'.files
  lines := h.lines.trans h'.lines
  bytes := h.bytes.trans h'.bytes
  comments := h.comments.trans h'.comments
  cyclomatic := h.cyclomatic.trans h'.cyclomatic
  cognitive := h.cognitive.trans h'.cognitive
  keys := h.keys.trans h'.keys

theorem add_left (h : a.Matches b) (c : SourceCounts) : (c + a).Matches (c + b) where
  files := congrArg (c.files + ·) h.files
  lines := congrArg (c.lines + ·) h.lines
  bytes := congrArg (c.bytes + ·) h.bytes
  comments := congrArg (c.comments + ·) h.comments
  cyclomatic := congrArg (c.cyclomatic + ·) h.cyclomatic
  cognitive := congrArg (c.cognitive + ·) h.cognitive
  keys := h.keys.append_left c.keys

/-- Counts may be added in another order. -/
theorem add_left_comm (a b c : SourceCounts) : (a + (b + c)).Matches (b + (a + c)) where
  files := Nat.add_left_comm ..
  lines := Nat.add_left_comm ..
  bytes := Nat.add_left_comm ..
  comments := Nat.add_left_comm ..
  cyclomatic := Nat.add_left_comm ..
  cognitive := Nat.add_left_comm ..
  keys := List.perm_append_comm_assoc a.keys b.keys c.keys

end Matches

/-- Sources may be counted in any order. -/
theorem matches_ofSources_of_perm {sources sources' : List (Text × Text)}
    (h : sources.Perm sources') : (ofSources sources).Matches (ofSources sources') := by
  induction h with
  | nil => exact .refl _
  | cons s h ih => exact ih.add_left _
  | swap s t sources => exact .add_left_comm ..
  | trans h h' ih ih' => exact ih.trans ih'

end SourceCounts

/-! ## Figures -/

section Figures

variable {α : Type} [Quantity α]

/-- The percentage counts keys, so that as many others give the same. -/
theorem duplicatePercentage_congr {keys keys' : List Text} (h : keys.length = keys'.length)
    (lineCount : Nat) :
    (duplicatePercentage keys lineCount : α) = duplicatePercentage keys' lineCount := by
  rw [duplicatePercentage, duplicatePercentage, sum_length_keyGroups, sum_length_keyGroups, h]

theorem QualityFigures.ofCounts_eq_of_matches {a b : SourceCounts} (h : a.Matches b) :
    (ofCounts a : QualityFigures α) = ofCounts b := by
  simp only [ofCounts, h.files, h.lines, h.bytes, h.comments, h.cyclomatic, h.cognitive,
    duplicatePercentage_congr h.keys.length_eq]

end Figures

/-! ## Files -/

variable {read read' : Text → Except ReadFailure Text} {move : Text → Text}
  {added files files' : List Text}

/-- The files of code that can be read, as languages and texts. -/
def codeTexts (read : Text → Except ReadFailure Text) (files : List Text) : List (Text × Text) :=
  (files.filter isCode).filterMap (sourceAt read)

/-- Whether files are moved with their texts, each to a path that tells the same language, and files
are added that have no text or are no code. -/
structure Rearranged (read read' : Text → Except ReadFailure Text) (move : Text → Text)
    (added files files' : List Text) : Prop where
  moved : files'.Perm (files.map move ++ added)
  code : ∀ p ∈ files, isCode (move p) = isCode p
  language : ∀ p ∈ files, Language.ofPath (move p) = Language.ofPath p
  text : ∀ p ∈ files, (read' (move p)).toOption = (read p).toOption
  unreadable : ∀ p ∈ added, isCode p = true → (read' p).toOption = none

namespace Rearranged

variable (h : Rearranged read read' move added files files')

include h

theorem sourceAt_move {p : Text} (hp : p ∈ files) : sourceAt read' (move p) = sourceAt read p := by
  rw [sourceAt, sourceAt, h.text p hp, h.language p hp]

/-- What is added is no source. -/
theorem codeTexts_added : codeTexts read' added = [] := by
  refine List.filterMap_eq_nil_iff.2 fun p hp => ?_
  obtain ⟨hmem, hcode⟩ := List.mem_filter.1 hp
  rw [sourceAt, h.unreadable p hmem hcode, Option.map_none]

/-- What is moved is the same source. -/
theorem codeTexts_map_move : codeTexts read' (files.map move) = codeTexts read files := by
  have hfilter : (files.map move).filter isCode = (files.filter isCode).map move := by
    rw [List.filter_map]
    exact congrArg (List.map move) (List.filter_congr fun p hp => h.code p hp)
  rw [codeTexts, hfilter, List.filterMap_map]
  exact List.filterMap_congr fun p hp => h.sourceAt_move (List.mem_of_mem_filter hp)

/-- Moving files changes the order of the sources at most. -/
theorem codeTexts_perm : (codeTexts read files).Perm (codeTexts read' files') := by
  have hfiles' := (h.moved.filter isCode).filterMap (sourceAt read')
  rw [List.filter_append, List.filterMap_append] at hfiles'
  -- What is kept and what is added can be read off separately.
  change (codeTexts read' files').Perm
    (codeTexts read' (files.map move) ++ codeTexts read' added) at hfiles'
  rw [h.codeTexts_added, h.codeTexts_map_move, List.append_nil] at hfiles'
  exact hfiles'.symm

end Rearranged

variable {α : Type} [Quantity α]

/-- Where the samples hold all files of code, two repositories that have the same sources, as often
and in any order, have the same figures; so it is if one comes from the other by moving files and by
adding files that cannot be read. -/
theorem figures_depend_on_sources (fs fs' : FileSystem) (root root' : Location) (s s' : Settings)
    (files files' : List Text)
    (hwithin : ((files.filter isCode).length : Int) ≤ s.qualitySampleLimit)
    (hwithin' : ((files'.filter isCode).length : Int) ≤ s'.qualitySampleLimit) :
    let read := fs.readSource root (some s.maxFileSize)
    let read' := fs'.readSource root' (some s'.maxFileSize)
    ((codeTexts read files).Perm (codeTexts read' files') →
        (measureQuality s read files : QualityFigures α) = measureQuality s' read' files') ∧
      ∀ move added, Rearranged read read' move added files files' →
        (measureQuality s read files : QualityFigures α) = measureQuality s' read' files' := by
  intro read read'
  have hfigures : (codeTexts read files).Perm (codeTexts read' files') →
      (measureQuality s read files : QualityFigures α) = measureQuality s' read' files' := by
    intro hperm
    rw [measureQuality, measureQuality, qualitySources_of_length_le hwithin,
      qualitySources_of_length_le hwithin']
    exact QualityFigures.ofCounts_eq_of_matches (SourceCounts.matches_ofSources_of_perm hperm)
  exact ⟨hfigures, fun move added h => hfigures h.codeTexts_perm⟩

/-- Two modules, of which one is to be moved into a folder, and the other renamed. -/
def scattered : FileSystem where
  top := [("a.py", .file (Utf8.encode "x = 1".toList)),
    ("b.js", .file (Utf8.encode "let y".toList))]

/-- The same modules, moved and renamed, beside a file that is no text. -/
def gathered : FileSystem where
  top := [("c.jsx", .file (Utf8.encode "let y".toList)), ("blob.py", .file ⟨#[0]⟩),
    ("lib", .folder [("a.PY", .file (Utf8.encode "x = 1".toList))])]

/-- Moving, renaming and adding what cannot be read leaves the figures as they are. -/
theorem figures_of_gathered :
    let read := scattered.readSource [] (some Settings.standard.maxFileSize)
    let read' := gathered.readSource [] (some Settings.standard.maxFileSize)
    let files : List Text := ["a.py", "b.js"]
    let files' : List Text := ["blob.py", "c.jsx", "lib/a.PY"]
    (((files.filter isCode).length : Int) ≤ Settings.standard.qualitySampleLimit ∧
      ((files'.filter isCode).length : Int) ≤ Settings.standard.qualitySampleLimit ∧
      (codeTexts read files).Perm (codeTexts read' files')) ∧
      (measureQuality .standard read files : QualityFigures Float) =
        measureQuality .standard read' files' := by
  intro read read' files files'
  have hwithin : ((files.filter isCode).length : Int) ≤ Settings.standard.qualitySampleLimit := by
    decide +kernel
  have hwithin' : ((files'.filter isCode).length : Int) ≤ Settings.standard.qualitySampleLimit := by
    decide +kernel
  have hsources : (codeTexts read files).Perm (codeTexts read' files') := by decide +kernel
  have h := figures_depend_on_sources (α := Float) scattered gathered [] [] .standard .standard
    files files' hwithin hwithin'
  exact ⟨⟨hwithin, hwithin', hsources⟩, h.1 hsources⟩

end CodeSurvey
