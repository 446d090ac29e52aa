import CodeSurvey.Excerpt.Select
import CodeSurvey.Idiom.Detect
import CodeSurvey.Proofs.Excerpt.Range
import CodeSurvey.Proofs.FileSystem.Sources
import CodeSurvey.Quality.Figures
import Mathlib.Data.List.Basic

/-!
# Unreadable files are skipped

A snapshot can be out of date: files that it lists may have gone, grown or changed into something
that holds no text. The stages that read sources pass over such files as if they had never been
listed. No failure of reading leaves a stage, whose result is a plain value. Of the look-ups on the
way only that of the heading of an indented block could fail, and its line is always there.

Where only a number of files is read, a file that cannot be read still takes the place of another.
The examples and the figures therefore need a sample as large as the snapshot; the idioms are
looked for in all files.

## Main definitions

* `FileSystem.Readable fs root limit path`: the path leads to a file with a text.
-/

namespace CodeSurvey

/-! ## Files that can be read -/

namespace FileSystem

/-- Whether a path leads to a file whose size is within a limit and which holds text: the bytes of
some text in UTF-8, none of them zero. -/
def Readable (fs : FileSystem) (root : Location) (limit : Int) (path : Text) : Prop :=
  ∃ l content, fs.stat root path = .ok (l, .file content) ∧ (content.size : Int) ≤ limit ∧
    0 ∉ content.data ∧ ∃ t, Utf8.encode t = content

variable {fs : FileSystem} {root : Location} {limit : Int} {path : Text}

/-- A source is read exactly if it can be. -/
theorem isOk_readSource_iff :
    (fs.readSource root (some limit) path).isOk = true ↔ fs.Readable root limit path := by
  have hok : (fs.readSource root (some limit) path).isOk = true ↔
      ∃ t, fs.readSource root (some limit) path = .ok t := by
    cases fs.readSource root (some limit) path <;> simp [Except.isOk, Except.toBool]
  simp only [hok, readSource_eq_ok_iff]
  constructor
  · intro h
    obtain ⟨t, ⟨l, hstat⟩, hwithin, hzero, -⟩ := h
    exact ⟨l, _, hstat, hwithin limit rfl, hzero, t, rfl⟩
  · intro h
    obtain ⟨l, content, hstat, hsize, hzero, t, rfl⟩ := h
    refine ⟨t, ⟨l, hstat⟩, ?_, hzero, Utf8.exists_encode_iff.1 ⟨t, rfl⟩⟩
    intro n hn
    cases hn
    exact hsize

instance : Decidable (fs.Readable root limit path) := decidable_of_iff _ isOk_readSource_iff

theorem toOption_readSource_eq_none (h : ¬fs.Readable root limit path) :
    (fs.readSource root (some limit) path).toOption = none := by
  rw [← isOk_readSource_iff] at h
  cases hread : fs.readSource root (some limit) path with
  | error e => rfl
  | ok t => simp [hread, Except.isOk, Except.toBool] at h

end FileSystem

/-! ## Stages -/

variable {s : Settings} {read : Text → Except ReadFailure Text} {keeps : Text → Bool}
  {files : List Text} {α : Type} [Quantity α]

/-- What is read of some files is what is read of those that can be read. -/
theorem filterMap_read_filter {β : Type} (f : Text → Text → β)
    (h : ∀ p, keeps p = false → (read p).toOption = none) (ps : List Text) :
    ((ps.filter keeps).filterMap fun p => (read p).toOption.map (f p)) =
      ps.filterMap fun p => (read p).toOption.map (f p) := by
  rw [List.filterMap_filter]
  refine List.filterMap_congr fun p _ => ?_
  split
  · rfl
  · rename_i hp
    rw [h p (by simpa using hp), Option.map_none]

/-- Every file is looked at for idioms, so that no sample is needed. -/
theorem surveyIdioms_filter (h : ∀ p, keeps p = false → (read p).toOption = none)
    (files : List Text) : surveyIdioms read (files.filter keeps) = surveyIdioms read files := by
  unfold surveyIdioms codeSources
  rw [List.filter_comm, filterMap_read_filter (fun p t => (p, t)) h]

/-- A sample as large as the files takes all of them, and all of those that are left. -/
theorem upTo_filter {n : Int} (hn : (files.length : Int) ≤ n) (p : Text → Bool) :
    Text.upTo n (files.filter p) = files.filter p := by
  have hle := List.length_filter_le p files
  exact Text.upTo_of_length_le (by omega)

theorem upTo_filter_filter {n : Int} (hn : (files.length : Int) ≤ n) (p : Text → Bool) :
    Text.upTo n ((files.filter keeps).filter p) = (Text.upTo n (files.filter p)).filter keeps := by
  have hle := List.length_filter_le keeps files
  rw [upTo_filter (by omega), upTo_filter hn, List.filter_comm]

theorem gatherExcerpts_eq_flatten (c : Category) :
    gatherExcerpts s read c files = ((sampledCandidates s c files).filterMap fun p =>
      (read p).toOption.map (c.find p)).flatten := by
  rw [gatherExcerpts]
  induction sampledCandidates s c files with
  | nil => rfl
  | cons p ps ih =>
      rw [List.flatMap_cons, ih]
      cases hread : read p with
      | error e => rw [List.filterMap_cons_none (by simp [hread, Except.toOption]), List.nil_append]
      | ok t =>
          rw [List.filterMap_cons_some (by simp [hread, Except.toOption]; rfl), List.flatten_cons]

theorem ExcerptSet.select_filter (h : ∀ p, keeps p = false → (read p).toOption = none)
    (hn : (files.length : Int) ≤ s.qualitySampleLimit) :
    ExcerptSet.select s read (files.filter keeps) = ExcerptSet.select s read files := by
  unfold ExcerptSet.select
  congr 1
  funext c
  have hgather : gatherExcerpts s read c (files.filter keeps) = gatherExcerpts s read c files := by
    rw [gatherExcerpts_eq_flatten, gatherExcerpts_eq_flatten, sampledCandidates,
      Category.candidates, upTo_filter_filter hn, filterMap_read_filter c.find h]
    rfl
  rw [selectExcerpts, selectExcerpts, hgather]

theorem measureQuality_filter (h : ∀ p, keeps p = false → (read p).toOption = none)
    (hn : (files.length : Int) ≤ s.qualitySampleLimit) :
    (measureQuality s read (files.filter keeps) : QualityFigures α) =
      measureQuality s read files := by
  unfold measureQuality qualitySources qualitySample
  rw [upTo_filter_filter hn, filterMap_read_filter (fun p t => (Language.ofPath p, t)) h]

/-- The block of a function that is worth showing has a heading. -/
theorem isSome_indentEnd?_of_mem_pickFunctions {t : Text} {declared : List (Text × Nat)}
    {pick : Nat × Text} (h : pick ∈ pickFunctions t [] declared) (limit : Nat) :
    (indentEnd? (Text.lines t) pick.1 limit).isSome = true := by
  obtain ⟨line, name⟩ := pick
  obtain ⟨offset, -, rfl, -⟩ := (Category.picked_pickFunctions t declared).worthy line name h
  obtain ⟨stop, hstop, -⟩ := indentEnd?_bounds (lineOfOffset_lt t offset) limit
  rw [hstop]
  rfl

/-- The idioms are those of the files that can be read, whatever the settings, and if the sample is
as large as the snapshot, so are the examples and the figures. The files need not be those of the
file system that is read. In every text the functions worth showing have the headings that their
blocks are looked up by. -/
theorem unreadable_files_are_skipped (fs : FileSystem) (root : Location) (s : Settings)
    (files : List Text) :
    let read := fs.readSource root (some s.maxFileSize)
    let readable := files.filter fun p => fs.Readable root s.maxFileSize p
    surveyIdioms read files = surveyIdioms read readable ∧
      ((files.length : Int) ≤ s.qualitySampleLimit →
        ExcerptSet.select s read files = ExcerptSet.select s read readable ∧
          (measureQuality s read files : QualityFigures α) = measureQuality s read readable) ∧
      ∀ t, ∀ pick ∈ pickFunctions t [] (declaredFunctions true t),
        (indentEnd? (Text.lines t) pick.1 blockLimit).isSome = true := by
  intro read readable
  have h : ∀ p, decide (fs.Readable root s.maxFileSize p) = false → (read p).toOption = none :=
    fun p hp => FileSystem.toOption_readSource_eq_none (by simpa using hp)
  refine ⟨(surveyIdioms_filter h files).symm, fun hn => ⟨?_, ?_⟩, fun t pick hpick => ?_⟩
  · exact (ExcerptSet.select_filter h hn).symm
  · exact (measureQuality_filter h hn).symm
  · exact isSome_indentEnd?_of_mem_pickFunctions hpick blockLimit

/-- A module, a file that is no text and a folder in the place of a file. -/
def crumbled : FileSystem where
  top := [("app.py", .file ⟨#[120]⟩), ("blob.py", .file ⟨#[120, 0]⟩), ("old.py", .folder [])]

/-- A snapshot from better times, with a file that is gone, shows the module alone. -/
theorem skipped_of_crumbled :
    let read := crumbled.readSource [] (some Settings.standard.maxFileSize)
    let files : List Text := ["app.py", "blob.py", "gone.py", "old.py"]
    ((files.length : Int) ≤ Settings.standard.qualitySampleLimit ∧
      files.filter (fun p => crumbled.Readable [] Settings.standard.maxFileSize p) = ["app.py"]) ∧
      surveyIdioms read files = surveyIdioms read ["app.py"] ∧
      ExcerptSet.select .standard read files = ExcerptSet.select .standard read ["app.py"] ∧
      (measureQuality .standard read files : QualityFigures Rat) =
        measureQuality .standard read ["app.py"] := by
  intro read files
  have hlimit : (files.length : Int) ≤ Settings.standard.qualitySampleLimit := by decide
  have hreadable : files.filter (fun p => crumbled.Readable [] Settings.standard.maxFileSize p) =
      ["app.py"] := by decide +kernel
  obtain ⟨hidioms, hsample, -⟩ :=
    unreadable_files_are_skipped (α := Rat) crumbled [] .standard files
  rw [hreadable] at hidioms hsample
  exact ⟨⟨hlimit, hreadable⟩, hidioms, hsample hlimit⟩

end CodeSurvey
