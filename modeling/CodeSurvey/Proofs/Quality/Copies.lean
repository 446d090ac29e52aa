import CodeSurvey.Proofs.Quality.Duplicates
import Mathlib.Tactic.Linarith

/-!
# A third copy of a source

A further copy of a source adds its windows to the windows and its lines to the lines. Two copies
have as many windows to a line as three, so that it depends on the other sources whether the
duplicate percentage rises: it does if these have fewer windows to a line, and with no other source
it stays as it is.

## Main definitions

* `ThirdCopy s read read' files files' p₁ p₂ p t`: a file is added that has the language and the
  text of two others.
-/

namespace CodeSurvey

/-- Of two fractions that differ by one more copy, the larger is told by what is not copied. -/
theorem copies_lt_copies_iff {w l W L : Nat} (hl : 0 < l) :
    100 * ((w + (w + W) : Nat) : Rat) / ((l + (l + L) : Nat) : Rat) <
        100 * ((w + (w + (w + W)) : Nat) : Rat) / ((l + (l + (l + L)) : Nat) : Rat) ↔
      W * l < w * L := by
  have htwo : (0 : Rat) < ((l + (l + L) : Nat) : Rat) := by exact_mod_cast (by omega)
  have hthree : (0 : Rat) < ((l + (l + (l + L)) : Nat) : Rat) := by exact_mod_cast (by omega)
  have hcast : W * l < w * L ↔ (W : Rat) * l < w * L := by exact_mod_cast Iff.rfl
  rw [div_lt_div_iff₀ htwo hthree, hcast]
  push_cast
  constructor
  · intro h
    linarith
  · intro h
    linarith

/-! ## Sources -/

variable {s : Settings} {read read' : Text → Except ReadFailure Text} {files files' : List Text}
  {p₁ p₂ p t : Text}

/-- The source that a file is, where it can be read. -/
def sourceAt (read : Text → Except ReadFailure Text) (p : Text) : Option (Text × Text) :=
  (read p).toOption.map fun t => (Language.ofPath p, t)

/-- Where the sample holds all files of code, every file of code that can be read is a source. -/
theorem qualitySources_of_length_le
    (h : ((files.filter isCode).length : Int) ≤ s.qualitySampleLimit) :
    qualitySources s read files = (files.filter isCode).filterMap (sourceAt read) := by
  rw [qualitySources, qualitySample, Text.upTo_of_length_le h]
  rfl

/-- A repository, before and after a file is added that has the language and the text of two of its
files. -/
structure ThirdCopy (s : Settings) (read read' : Text → Except ReadFailure Text)
    (files files' : List Text) (p₁ p₂ p t : Text) : Prop where
  nodup : files'.Nodup
  added : files'.Perm (p :: files)
  copies : p₁ ∈ files ∧ p₂ ∈ files ∧ p₁ ≠ p₂
  code : ∀ q ∈ [p₁, p₂, p], isCode q = true ∧ Language.ofPath q = Language.ofPath p
  texts : ∀ q ∈ [p₁, p₂, p], (read' q).toOption = some t
  unchanged : ∀ q ∈ files, (read' q).toOption = (read q).toOption
  within : ((files'.filter isCode).length : Int) ≤ s.qualitySampleLimit

namespace ThirdCopy

instance : Decidable (ThirdCopy s read read' files files' p₁ p₂ p t) :=
  decidable_of_iff (files'.Nodup ∧ files'.Perm (p :: files) ∧ (p₁ ∈ files ∧ p₂ ∈ files ∧ p₁ ≠ p₂) ∧
      (∀ q ∈ [p₁, p₂, p], isCode q = true ∧ Language.ofPath q = Language.ofPath p) ∧
      (∀ q ∈ [p₁, p₂, p], (read' q).toOption = some t) ∧
      (∀ q ∈ files, (read' q).toOption = (read q).toOption) ∧
      ((files'.filter isCode).length : Int) ≤ s.qualitySampleLimit)
    ⟨fun ⟨h₁, h₂, h₃, h₄, h₅, h₆, h₇⟩ => ⟨h₁, h₂, h₃, h₄, h₅, h₆, h₇⟩,
      fun ⟨h₁, h₂, h₃, h₄, h₅, h₆, h₇⟩ => ⟨h₁, h₂, h₃, h₄, h₅, h₆, h₇⟩⟩

section Sources

variable (h : ThirdCopy s read read' files files' p₁ p₂ p t)

include h

/-- Each of the three files is the same source. -/
theorem sourceAt_eq {q : Text} (hq : q ∈ [p₁, p₂, p]) :
    sourceAt read' q = some (Language.ofPath p, t) := by
  rw [sourceAt, h.texts q hq, (h.code q hq).2]
  rfl

theorem sourceAt_congr {q : Text} (hq : q ∈ files) : sourceAt read' q = sourceAt read q := by
  rw [sourceAt, h.unchanged q hq, ← sourceAt]

theorem files_perm : files.Perm (p₁ :: p₂ :: (files.erase p₁).erase p₂) := by
  obtain ⟨h₁, h₂, hne⟩ := h.copies
  have hrest : p₂ ∈ files.erase p₁ := (List.mem_erase_of_ne hne.symm).2 h₂
  exact (List.perm_cons_erase h₁).trans ((List.perm_cons_erase hrest).cons p₁)

theorem length_filter_le : ((files.filter isCode).length : Int) ≤ s.qualitySampleLimit := by
  have hperm := (h.added.filter isCode).length_eq
  have hle : (files.filter isCode).length ≤ ((p :: files).filter isCode).length :=
    ((List.sublist_cons_self p files).filter isCode).length_le
  have hwithin := h.within
  omega

/-- The sources after: the one that is added, and those before. -/
theorem sources_after_perm : (qualitySources s read' files').Perm
    ((Language.ofPath p, t) :: qualitySources s read files) := by
  rw [qualitySources_of_length_le h.within, qualitySources_of_length_le h.length_filter_le]
  refine ((h.added.filter isCode).filterMap _).trans ?_
  rw [List.filter_cons_of_pos (h.code p (by simp)).1,
    List.filterMap_cons_some (h.sourceAt_eq (by simp))]
  refine List.Perm.cons _ (List.Perm.of_eq ?_)
  exact List.filterMap_congr fun q hq => h.sourceAt_congr (List.mem_of_mem_filter hq)

/-- The sources before: the two copies, and all others. -/
theorem sources_before_perm : (qualitySources s read files).Perm
    ((Language.ofPath p, t) :: (Language.ofPath p, t) ::
      qualitySources s read ((files.erase p₁).erase p₂)) := by
  have hothers : ((((files.erase p₁).erase p₂).filter isCode).length : Int) ≤
      s.qualitySampleLimit := by
    have hsub : ((files.erase p₁).erase p₂).Sublist files :=
      List.erase_sublist.trans List.erase_sublist
    have hle := (hsub.filter isCode).length_le
    have hfiles := h.length_filter_le
    omega
  obtain ⟨h₁, h₂, -⟩ := h.copies
  have hsource₁ : sourceAt read p₁ = some (Language.ofPath p, t) := by
    rw [← h.sourceAt_congr h₁, h.sourceAt_eq (by simp)]
  have hsource₂ : sourceAt read p₂ = some (Language.ofPath p, t) := by
    rw [← h.sourceAt_congr h₂, h.sourceAt_eq (by simp)]
  rw [qualitySources_of_length_le h.length_filter_le, qualitySources_of_length_le hothers]
  refine ((h.files_perm.filter isCode).filterMap _).trans (List.Perm.of_eq ?_)
  rw [List.filter_cons_of_pos (h.code p₁ (by simp)).1, List.filterMap_cons_some hsource₁,
    List.filter_cons_of_pos (h.code p₂ (by simp)).1, List.filterMap_cons_some hsource₂]

end Sources

/-- A third copy of a source raises the duplicate percentage exactly if the other sources, taken
together, have fewer windows to a line than the copied one. -/
theorem duplicatePercentage_lt_iff (h : ThirdCopy s read read' files files' p₁ p₂ p t) :
    let others := qualitySources s read ((files.erase p₁).erase p₂)
    (measureQuality s read files : QualityFigures Rat).duplicatePercentage <
        (measureQuality s read' files' : QualityFigures Rat).duplicatePercentage ↔
      windowTotal others * (Text.lines t).length <
        windowCount (Language.ofPath p) t * lineTotal others := by
  intro others
  have hpos : 0 < (Text.lines t).length := List.length_pos_iff.2 (Text.splitOn_ne_nil '\n' t)
  have hafter := h.sources_after_perm.trans (h.sources_before_perm.cons _)
  rw [measureQuality, measureQuality, duplicatePercentage_ofSources, duplicatePercentage_ofSources,
    windowTotal_eq_of_perm hafter, lineTotal_eq_of_perm hafter,
    windowTotal_eq_of_perm h.sources_before_perm, lineTotal_eq_of_perm h.sources_before_perm]
  simp only [windowTotal_cons, lineTotal_cons]
  exact copies_lt_copies_iff hpos

/-! ## Repositories of copies -/

/-- Five lines, which are one window. -/
def fiveLines : Text := "let a = 10;\nlet b = 20;\nlet c = 30;\nlet d = 40;\nlet e = 50;"

/-- Files of which two are copies. -/
def twoCopies (others : List (Text × Text)) : List (Text × Text) :=
  ("a.js", fiveLines) :: ("b.js", fiveLines) :: others

/-- The same files with a third copy. -/
def threeCopies (others : List (Text × Text)) : List (Text × Text) :=
  ("c.js", fiveLines) :: twoCopies others

/-- The paths of some files. -/
def paths (entries : List (Text × Text)) : List Text := entries.map (·.1)

/-- How some files are read that lie next to each other. -/
def readIn (entries : List (Text × Text)) : Text → Except ReadFailure Text :=
  let fs : FileSystem := ⟨entries.map fun (n, t) => (n, .file (Utf8.encode t))⟩
  fs.readSource [] (some Settings.standard.maxFileSize)

/-- The duplicate percentage of some files. -/
def percentage (entries : List (Text × Text)) : Rat :=
  (measureQuality .standard (readIn entries) (paths entries)).duplicatePercentage

/-- Next to a file without windows the third copy raises the percentage. -/
theorem percentage_rises :
    let others : List (Text × Text) := [("other.js", [])]
    ThirdCopy .standard (readIn (twoCopies others)) (readIn (threeCopies others))
        (paths (twoCopies others)) (paths (threeCopies others)) "a.js" "b.js" "c.js" fiveLines ∧
      percentage (twoCopies others) < percentage (threeCopies others) := by
  intro others
  have h : ThirdCopy .standard (readIn (twoCopies others)) (readIn (threeCopies others))
      (paths (twoCopies others)) (paths (threeCopies others)) "a.js" "b.js" "c.js" fiveLines := by
    decide +kernel
  exact ⟨h, h.duplicatePercentage_lt_iff.2 (by decide +kernel)⟩

/-- With no other file the third copy leaves the percentage as it is: two windows in ten lines are
three in fifteen. -/
theorem percentage_does_not_rise :
    ThirdCopy .standard (readIn (twoCopies [])) (readIn (threeCopies []))
        (paths (twoCopies [])) (paths (threeCopies [])) "a.js" "b.js" "c.js" fiveLines ∧
      0 < windowCount (Language.ofPath "c.js") fiveLines ∧
      ¬percentage (twoCopies []) < percentage (threeCopies []) := by
  have htwo : windowTotal (qualitySources .standard (readIn (twoCopies []))
      (paths (twoCopies []))) = 2 ∧
      lineTotal (qualitySources .standard (readIn (twoCopies [])) (paths (twoCopies []))) = 10 := by
    decide +kernel
  have hthree : windowTotal (qualitySources .standard (readIn (threeCopies []))
      (paths (threeCopies []))) = 3 ∧
      lineTotal (qualitySources .standard (readIn (threeCopies []))
        (paths (threeCopies []))) = 15 := by
    decide +kernel
  refine ⟨by decide +kernel, by decide +kernel, ?_⟩
  rw [percentage, percentage, measureQuality, measureQuality, duplicatePercentage_ofSources,
    duplicatePercentage_ofSources, htwo.1, htwo.2, hthree.1, hthree.2]
  norm_num

end ThirdCopy
end CodeSurvey
