import CodeSurvey.Proofs.Quality.Duplicates

/-!
# Bounds of the figures

The figures lie between their bounds whatever the sources are: comments are some of the lines, every
source has a path through it, and the two scores are kept between nothing and a hundred. Where no
source is read each figure is what is set for that case, as every divisor is guarded.

## Main definitions

* `QualityFigures.InBounds`: the bounds of the figures.
* `QualityFigures.map f q`: the figures computed in other numbers.
-/

namespace CodeSurvey
namespace QualityFigures

/-! ## Bounds -/

/-- The figures of nothing. -/
def ofNothing : QualityFigures Rat where
  averageFileSize := 0
  totalLines := 0
  commentRatio := 0
  cyclomatic := 0
  cognitive := 0
  maintainability := 100
  duplicatePercentage := 0
  fileCount := 0

/-- What holds of figures, whatever they are taken from. -/
structure InBounds (q : QualityFigures Rat) : Prop where
  commentRatio : 0 ≤ q.commentRatio ∧ q.commentRatio ≤ 1
  maintainability : 0 ≤ q.maintainability ∧ q.maintainability ≤ 100
  duplicatePercentage : 0 ≤ q.duplicatePercentage ∧ q.duplicatePercentage ≤ 100
  fileCount_le : q.fileCount ≤ q.totalLines
  complexity : 0 < q.fileCount → 1 ≤ q.cyclomatic ∧ 0 ≤ q.cognitive
  empty : q.fileCount = 0 → q = ofNothing

theorem maintainabilityIndex_mem_Icc (cyclomatic cognitive commentRatio : Rat) :
    0 ≤ maintainabilityIndex cyclomatic cognitive commentRatio ∧
      maintainabilityIndex cyclomatic cognitive commentRatio ≤ 100 :=
  Quantity.clamp_mem_Icc (by norm_num) _

theorem duplicatePercentage_mem_Icc (keys : List Text) (lineCount : Nat) :
    0 ≤ (CodeSurvey.duplicatePercentage keys lineCount : Rat) ∧
      (CodeSurvey.duplicatePercentage keys lineCount : Rat) ≤ 100 := by
  rw [duplicatePercentage_rat]
  exact Quantity.clamp_mem_Icc (by norm_num) _

theorem ofCounts_empty : (ofCounts {} : QualityFigures Rat) = ofNothing := by
  decide +kernel

/-- Counts that have to do with each other as those of sources give figures in bounds. -/
theorem inBounds_ofCounts {c : SourceCounts} (hc : c.Consistent) :
    (ofCounts c : QualityFigures Rat).InBounds where
  commentRatio := ⟨Quantity.share_nonneg _ _, Quantity.share_le_one hc.comments_le⟩
  maintainability := maintainabilityIndex_mem_Icc _ _ _
  duplicatePercentage := duplicatePercentage_mem_Icc _ _
  fileCount_le := by
    have h := hc.windows_le
    change c.files ≤ c.lines
    omega
  complexity hfiles := ⟨Quantity.one_le_share hfiles hc.files_le, Quantity.share_nonneg _ _⟩
  empty hfiles := by
    rw [hc.eq_empty hfiles]
    exact ofCounts_empty

/-! ## Divisors -/

/-- The figures with their numbers in another form. -/
def map {α β : Type} (f : α → β) (q : QualityFigures α) : QualityFigures β where
  averageFileSize := f q.averageFileSize
  totalLines := q.totalLines
  commentRatio := f q.commentRatio
  cyclomatic := f q.cyclomatic
  cognitive := f q.cognitive
  maintainability := f q.maintainability
  duplicatePercentage := f q.duplicatePercentage
  fileCount := q.fileCount

theorem maintainabilityIndex_value (cyclomatic cognitive commentRatio : Rat) :
    maintainabilityIndex (.value cyclomatic) (.value cognitive) (.value commentRatio) =
      Guarded.value (maintainabilityIndex cyclomatic cognitive commentRatio) := by
  simp only [maintainabilityIndex, Guarded.value_natCast, Guarded.tenths_value, Guarded.value_mul,
    Guarded.value_sub, Guarded.value_add, Guarded.clamp_value]

theorem duplicatePercentage_value (keys : List Text) (lineCount : Nat) :
    (CodeSurvey.duplicatePercentage keys lineCount : Guarded) =
      .value (CodeSurvey.duplicatePercentage keys lineCount) := by
  unfold CodeSurvey.duplicatePercentage
  split
  · rfl
  · rename_i hlines
    have hne : (lineCount : Rat) ≠ 0 := by exact_mod_cast hlines
    simp only [Guarded.value_natCast, Guarded.value_mul, Guarded.value_div _ hne,
      Guarded.clamp_value]

/-- No divisor of the figures is zero. -/
theorem ofCounts_value (c : SourceCounts) :
    (ofCounts c : QualityFigures Guarded) = (ofCounts c : QualityFigures Rat).map .value := by
  simp only [ofCounts, map, Guarded.share_value, maintainabilityIndex_value,
    duplicatePercentage_value]

/-- The figures of a repository are in bounds, and no quotient by zero is taken to compute them. -/
theorem measureQuality_in_bounds (fs : FileSystem) (root : Location) (s : Settings)
    (files : List Text) :
    let read := fs.readSource root (some s.maxFileSize)
    let figures : QualityFigures Rat := measureQuality s read files
    figures.InBounds ∧
      (measureQuality s read files : QualityFigures Guarded) = figures.map .value := by
  intro read figures
  constructor
  · exact inBounds_ofCounts (SourceCounts.consistent_ofSources _)
  · exact ofCounts_value _

end QualityFigures
end CodeSurvey
