import CodeSurvey.Proofs.FileSystem.Sources
import CodeSurvey.Proofs.Quality.Counts
import CodeSurvey.Proofs.Quantity

/-!
# Requested sources

A request for a source gives the text of the file or the first reason why there is none, with the
path that was requested. A text has the bytes of its file, so the sizes that the quality figures
average are those of the files.

## Main definitions

* `FileSystem.sizeAt`: the size of what a path leads to.
-/

namespace CodeSurvey

theorem SourceCounts.bytes_ofSources (sources : List (Text × Text)) :
    (ofSources sources).bytes = (sources.map fun s => (Utf8.encode s.2).size).sum := by
  induction sources with
  | nil => rfl
  | cons s sources ih =>
      rw [ofSources_cons, List.map_cons, List.sum_cons, ← ih]
      rfl

namespace FileSystem

variable {fs : FileSystem} {root : Location} {limit : Option Int} {path t : Text}

/-! ## Requests -/

theorem requestSource_of_zero (h : '\x00' ∈ pathUnder root path) :
    fs.requestSource root limit path = .error .zeroInPath := by
  rw [requestSource, if_pos (by simpa using h)]

theorem requestSource_of_no_zero (h : '\x00' ∉ pathUnder root path) :
    fs.requestSource root limit path =
      (fs.readSource root limit path).mapError (.unreadable path) := by
  rw [requestSource, if_neg (by simpa using h)]

theorem requestSource_eq_ok_iff (h : '\x00' ∉ pathUnder root path) :
    fs.requestSource root limit path = .ok t ↔ fs.IsSource root limit path (Utf8.encode t) := by
  rw [requestSource_of_no_zero h, ← readSource_eq_ok_iff]
  cases fs.readSource root limit path <;> simp [Except.mapError]

theorem requestSource_eq_error_iff (h : '\x00' ∉ pathUnder root path) {failure : SourceFailure} :
    fs.requestSource root limit path = .error failure ↔
      ∃ reason, failure = .unreadable path reason ∧ fs.Refuses root limit path reason := by
  rw [requestSource_of_no_zero h]
  simp only [← readSource_eq_error_iff]
  cases fs.readSource root limit path <;> simp [Except.mapError, eq_comm]

/-! ## Sizes -/

/-- The size of what a path leads to, and nothing if it leads nowhere. -/
def sizeAt (fs : FileSystem) (root : Location) (path : Text) : Nat :=
  match fs.stat root path with
  | .ok (_, e) => entrySize e
  | .error _ => 0

/-- A text has as many bytes as the file that it is read from. -/
theorem size_encode_of_readSource (h : fs.readSource root limit path = .ok t) :
    (Utf8.encode t).size = fs.sizeAt root path := by
  obtain ⟨⟨l, hstat⟩, -, -, -⟩ := readSource_eq_ok_iff.1 h
  simp only [sizeAt, hstat, entrySize]

/-- The sources that are sampled have as many bytes as their files. -/
theorem bytes_qualitySources (fs : FileSystem) (root : Location) (s : Settings)
    (files : List Text) :
    let read := fs.readSource root (some s.maxFileSize)
    (SourceCounts.ofSources (qualitySources s read files)).bytes =
      (((qualitySample s files).filter fun p => (read p).isOk).map (fs.sizeAt root)).sum := by
  intro read
  rw [SourceCounts.bytes_ofSources, qualitySources]
  congr 1
  induction qualitySample s files with
  | nil => rfl
  | cons p ps ih =>
      cases hread : read p with
      | error failure =>
          rw [List.filterMap_cons_none (by rw [hread]; rfl),
            List.filter_cons_of_neg (by simp [hread, Except.isOk, Except.toBool]), ih]
      | ok t =>
          rw [List.filterMap_cons_some (by rw [hread]; rfl),
            List.filter_cons_of_pos (by simp [hread, Except.isOk, Except.toBool]), List.map_cons,
            List.map_cons, ih, size_encode_of_readSource hread]

/-- The average size times the number of files is the sum of the sizes, also where there are none.
-/
theorem averageFileSize_mul_fileCount {c : SourceCounts} (h : c.Consistent) :
    (QualityFigures.ofCounts c : QualityFigures Rat).averageFileSize *
      (QualityFigures.ofCounts c : QualityFigures Rat).fileCount = c.bytes := by
  change (Quantity.share c.bytes c.files : Rat) * (c.files : Rat) = c.bytes
  rw [Quantity.share_rat]
  by_cases hfiles : c.files = 0
  · rw [h.eq_empty hfiles]
    norm_num
  · exact div_mul_cancel₀ _ (by exact_mod_cast hfiles)

/-- A request gives a text exactly if its path leads to a file of limited size with well-formed
bytes and no zero among them, and the bytes of the text are then those of the file. Otherwise it
fails with the requested path and the first reason that applies. A path with a character zero is the
exception: the request for it fails without a path or a reason. The average size of the sampled
files times their number is the sum of the sizes of the files that are read. -/
theorem source_or_first_reason (fs : FileSystem) (root : Location) :
    (∀ limit path, '\x00' ∉ pathUnder root path →
      ((∃ t, fs.requestSource root limit path = .ok t) ↔
        ∃ content, fs.IsSource root limit path content) ∧
      (∀ t, fs.requestSource root limit path = .ok t →
        fs.IsSource root limit path (Utf8.encode t)) ∧
      ∀ failure, fs.requestSource root limit path = .error failure ↔
        ∃ reason, failure = .unreadable path reason ∧ fs.Refuses root limit path reason) ∧
    (∀ limit path, '\x00' ∈ pathUnder root path →
      fs.requestSource root limit path = .error .zeroInPath) ∧
    ∀ s files,
      let read := fs.readSource root (some s.maxFileSize)
      let figures : QualityFigures Rat := measureQuality s read files
      figures.averageFileSize * figures.fileCount =
        (((qualitySample s files).filter fun p => (read p).isOk).map (fs.sizeAt root)).sum := by
  refine ⟨?_, fun _ _ => requestSource_of_zero, ?_⟩
  · intro limit path hpath
    refine ⟨?_, fun t => (requestSource_eq_ok_iff hpath).1, fun failure =>
      requestSource_eq_error_iff hpath⟩
    constructor
    · intro h
      obtain ⟨t, ht⟩ := h
      exact ⟨_, (requestSource_eq_ok_iff hpath).1 ht⟩
    · intro h
      obtain ⟨content, hsource⟩ := h
      obtain ⟨t, rfl⟩ := Utf8.exists_encode_iff.2 hsource.wellFormed
      exact ⟨t, (requestSource_eq_ok_iff hpath).2 hsource⟩
  · intro s files read figures
    have hbytes := bytes_qualitySources fs root s files
    rw [← hbytes]
    exact averageFileSize_mul_fileCount (SourceCounts.consistent_ofSources _)

/-- A file with one character of two bytes, and one with the first of them alone. -/
def accented : FileSystem where
  top := [("e.py", .file ⟨#[0xC3, 0xA9]⟩), ("cut.py", .file ⟨#[0xC3]⟩)]

/-- The character is read, the single byte is refused, and the figures count two bytes in one file.
-/
theorem sources_of_accented :
    let figures : QualityFigures Rat := measureQuality .standard
      (accented.readSource [] (some Settings.standard.maxFileSize)) ["e.py", "cut.py"]
    ('\x00' ∉ pathUnder [] "e.py".toList ∧ '\x00' ∉ pathUnder [] "cut.py".toList ∧
      '\x00' ∈ pathUnder [] "e\x00.py".toList) ∧
      (∃ content, accented.IsSource [] (some 2) "e.py" content) ∧
      accented.IsSource [] (some 2) "e.py" (Utf8.encode ['é']) ∧
      accented.Refuses [] (some 2) "cut.py" .notUtf8 ∧
      accented.requestSource [] (some 2) "e\x00.py" = .error .zeroInPath ∧
      figures.averageFileSize * figures.fileCount = 2 := by
  intro figures
  obtain ⟨hpaths, hzero, hfigures⟩ := source_or_first_reason accented []
  have he : '\x00' ∉ pathUnder [] "e.py".toList := by decide
  have hcut : '\x00' ∉ pathUnder [] "cut.py".toList := by decide
  have hzeroed : '\x00' ∈ pathUnder [] "e\x00.py".toList := by decide
  have htext : accented.requestSource [] (some 2) "e.py" = .ok ['é'] := by decide +kernel
  have hrefused : accented.requestSource [] (some 2) "cut.py" =
      .error (.unreadable "cut.py" .notUtf8) := by decide +kernel
  obtain ⟨reason, heq, hreason⟩ := ((hpaths (some 2) "cut.py" hcut).2.2 _).1 hrefused
  cases heq
  refine ⟨⟨he, hcut, hzeroed⟩, (hpaths (some 2) "e.py" he).1.1 ⟨_, htext⟩,
    (hpaths (some 2) "e.py" he).2.1 _ htext, hreason, hzero (some 2) _ hzeroed, ?_⟩
  rw [hfigures .standard ["e.py", "cut.py"]]
  decide +kernel

/-- A path with a character zero leads to no source, and yet no failure tells the path. -/
theorem request_of_zeroed_path_tells_nothing :
    (∀ content, ¬(({} : FileSystem).IsSource [] none "a\x00b" content)) ∧
      ∀ reason, ({} : FileSystem).requestSource [] none "a\x00b" ≠
        .error (.unreadable "a\x00b" reason) := by
  have hrequest : ({} : FileSystem).requestSource [] none "a\x00b" = .error .zeroInPath := by decide
  constructor
  · intro content hsource
    obtain ⟨l, hstat⟩ := hsource.leads
    have hnone : ({} : FileSystem).stat [] "a\x00b" = .error .noEntry := by rfl
    rw [hnone] at hstat
    cases hstat
  · intro reason hrefused
    rw [hrequest] at hrefused
    cases hrefused

end FileSystem
end CodeSurvey
