import CodeSurvey.Proofs.Quality.Counts
import CodeSurvey.Proofs.Quantity

/-!
# The share of windows

The duplicate percentage adds up the sizes of all groups of equal keys, so that it is the number of
windows in a hundred lines, however the keys fall into groups. As each source has a line that begins
no window, it is less than a hundred, and the bounds that it is kept between change nothing.
-/

namespace CodeSurvey

/-- No key is lost in grouping, and none is counted twice. -/
theorem sum_length_keyGroups (keys : List Text) :
    ((keyGroups keys).map List.length).foldr (· + ·) 0 = keys.length := by
  rw [← List.sum_eq_foldr, ← List.length_flatten, keyGroups, List.flatten_splitBy, Text.sort,
    List.length_mergeSort]

/-- The percentage counts keys and does not read them. -/
theorem duplicatePercentage_rat (keys : List Text) (lineCount : Nat) :
    (duplicatePercentage keys lineCount : Rat) =
      Quantity.clamp 0 100 (100 * (keys.length : Rat) / (lineCount : Rat)) := by
  rw [duplicatePercentage, sum_length_keyGroups]
  split
  · rename_i hnone
    rw [hnone, Nat.cast_zero, div_zero, Quantity.clamp_eq_self le_rfl (by norm_num)]
  · rfl

/-- With fewer windows than lines the percentage needs no bounds. -/
theorem duplicatePercentage_eq_div {keys : List Text} {lineCount : Nat}
    (h : keys.length ≤ lineCount) :
    (duplicatePercentage keys lineCount : Rat) = 100 * (keys.length : Rat) / (lineCount : Rat) := by
  have hle : (keys.length : Rat) ≤ lineCount := by exact_mod_cast h
  have hnonneg : (0 : Rat) ≤ keys.length := Nat.cast_nonneg _
  rw [duplicatePercentage_rat, mul_div_assoc, Quantity.clamp_eq_self]
  · exact mul_nonneg (by norm_num) (div_nonneg hnonneg (Nat.cast_nonneg _))
  · exact mul_le_of_le_one_right (by norm_num) (div_le_one_of_le₀ hle (Nat.cast_nonneg _))

/-! ## Sources -/

variable (sources : List (Text × Text))

/-- Each source has a line that begins no window. -/
theorem windowTotal_add_length_le : windowTotal sources + sources.length ≤ lineTotal sources := by
  have h := (SourceCounts.consistent_ofSources sources).windows_le
  rwa [SourceCounts.length_keys_ofSources, SourceCounts.files_ofSources,
    SourceCounts.lines_ofSources] at h

/-- The percentage is the same for all keys that windows might have. -/
theorem duplicatePercentage_map_heldWindows (key : List Text → Text) :
    (duplicatePercentage ((heldWindows sources).map key) (lineTotal sources) : Rat) =
      100 * (windowTotal sources : Rat) / (lineTotal sources : Rat) := by
  have hlength : ((heldWindows sources).map key).length = windowTotal sources := by
    rw [List.length_map, length_heldWindows]
  rw [duplicatePercentage_eq_div, hlength]
  have h := windowTotal_add_length_le sources
  omega

theorem duplicatePercentage_ofSources :
    (QualityFigures.ofCounts (.ofSources sources) : QualityFigures Rat).duplicatePercentage =
      100 * (windowTotal sources : Rat) / (lineTotal sources : Rat) := by
  rw [← duplicatePercentage_map_heldWindows sources (shape ∘ windowText),
    ← SourceCounts.keys_ofSources, ← SourceCounts.lines_ofSources]
  rfl

theorem duplicatePercentage_ofSources_lt :
    (QualityFigures.ofCounts (.ofSources sources) : QualityFigures Rat).duplicatePercentage <
      100 := by
  rw [duplicatePercentage_ofSources]
  rcases sources.eq_nil_or_concat with rfl | hne
  · norm_num [windowTotal, lineTotal]
  · have hbound := windowTotal_add_length_le sources
    have hpos : 0 < sources.length := by
      obtain ⟨front, last, rfl⟩ := hne
      simp
    have hlt : (windowTotal sources : Rat) < lineTotal sources := by
      exact_mod_cast (by omega : windowTotal sources < lineTotal sources)
    rw [div_lt_iff₀ (lt_of_le_of_lt (Nat.cast_nonneg _) hlt)]
    exact mul_lt_mul_of_pos_left hlt (by norm_num)

/-- The duplicate percentage is the number of windows in a hundred lines of the sources that are
read, and nothing where none is read. It is the same for all keys that windows might have, and as
each source has a line that begins no window it is less than a hundred. -/
theorem duplicatePercentage_is_share_of_windows (fs : FileSystem) (root : Location) (s : Settings)
    (files : List Text) :
    let read := fs.readSource root (some s.maxFileSize)
    let sources := qualitySources s read files
    let figures : QualityFigures Rat := measureQuality s read files
    (figures.duplicatePercentage =
      if sources = [] then 0 else 100 * (windowTotal sources : Rat) / (lineTotal sources : Rat)) ∧
    windowTotal sources + sources.length ≤ lineTotal sources ∧
    figures.duplicatePercentage < 100 ∧
    ∀ key : List Text → Text,
      duplicatePercentage ((heldWindows sources).map key) (lineTotal sources) =
        figures.duplicatePercentage := by
  intro read sources figures
  have hfigure : figures.duplicatePercentage =
      100 * (windowTotal sources : Rat) / (lineTotal sources : Rat) :=
    duplicatePercentage_ofSources sources
  refine ⟨?_, windowTotal_add_length_le sources, duplicatePercentage_ofSources_lt sources, ?_⟩
  · split
    · rename_i hnone
      rw [hfigure, hnone]
      norm_num [windowTotal]
    · exact hfigure
  · intro key
    rw [hfigure]
    exact duplicatePercentage_map_heldWindows sources key

end CodeSurvey
