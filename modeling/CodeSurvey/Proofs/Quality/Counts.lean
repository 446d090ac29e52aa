import CodeSurvey.Proofs.Text.Pieces
import CodeSurvey.Quality.Figures
import Mathlib.Data.List.SplitBy
import Mathlib.Algebra.BigOperators.Group.List.Basic

/-!
# Counts of sources

The counts of several sources are the sums of their counts. Windows are counted by the line on which
they begin: as four lines must follow, a source has fewer windows than lines. What the counts of a
source have to do with each other therefore holds of any number of sources.

## Main definitions

* `Held style window`: what a window must be to be held against others.
* `windowCount language content`: the windows of a source that are held against others.
* `windowTotal sources`, `lineTotal sources`: the windows and the lines of several sources.
* `SourceCounts.Consistent`: what the counts of sources have to do with each other.
-/

namespace CodeSurvey

/-! ## Windows -/

/-- Lines that say nothing say nothing together. -/
theorem Text.isBlankLine_unlines {ls : List Text} (h : ∀ line ∈ ls, isBlankLine line = true) :
    isBlankLine (unlines ls) = true := by
  induction ls with
  | nil => rfl
  | cons line rest ih =>
      have hline := h line List.mem_cons_self
      have hrest := ih fun l hl => h l (List.mem_cons_of_mem _ hl)
      by_cases hnil : rest = []
      · subst hnil
        simpa [unlines, joinWith] using hline
      · have hnewline : isBlank '\n' = true := by decide
        rw [unlines, joinWith, List.intercalate_cons_of_ne_nil hnil, ← joinWith, ← unlines]
        simp only [isBlankLine, List.all_append, Bool.and_eq_true] at hline hrest ⊢
        exact ⟨⟨hline, by simp [hnewline]⟩, hrest⟩

/-- What a window must be to be held against others: it has fifty characters, blanks at its ends
aside, and of its lines that say something no more than half are comments. -/
structure Held (style : CommentStyle) (window : List Text) : Prop where
  long : 50 ≤ (Text.trim (Text.unlines window)).length
  code : 2 * window.countP (fun line => isComment style line && !Text.isBlankLine line) ≤
    window.countP fun line => !Text.isBlankLine line

section Held

variable {style : CommentStyle} {window : List Text}

instance : Decidable (Held style window) :=
  decidable_of_iff (50 ≤ (Text.trim (Text.unlines window)).length ∧
      2 * window.countP (fun line => isComment style line && !Text.isBlankLine line) ≤
        window.countP fun line => !Text.isBlankLine line)
    ⟨fun h => ⟨h.1, h.2⟩, fun h => ⟨h.1, h.2⟩⟩

/-- A window that is long enough says something, so that this need not be asked. -/
theorem qualifies_iff_held : qualifies style window = true ↔ Held style window := by
  have hcontent : 50 ≤ (windowText window).length →
      (window.filter fun line => !Text.isBlankLine line) ≠ [] := by
    intro hlong hnil
    have hblank : ∀ line ∈ window, Text.isBlankLine line = true := by
      simpa using List.filter_eq_nil_iff.1 hnil
    rw [windowText, Text.trim_eq_nil_iff.2 (Text.isBlankLine_unlines hblank)] at hlong
    simp at hlong
  simp only [qualifies, mostlyComments, windowCharacters, Bool.and_eq_true, Bool.not_eq_true',
    Bool.or_eq_false_iff, List.isEmpty_eq_false_iff, decide_eq_false_iff_not, not_lt,
    List.countP_filter, ← List.countP_eq_length_filter]
  constructor
  · rintro ⟨hlong, -, hcode⟩
    exact ⟨of_decide_eq_true hlong, hcode⟩
  · rintro ⟨hlong, hcode⟩
    exact ⟨decide_eq_true hlong, hcontent hlong, hcode⟩

theorem qualifies_eq_decide : qualifies style = fun window => decide (Held style window) := by
  funext window
  rw [Bool.eq_iff_iff, decide_eq_true_eq]
  exact qualifies_iff_held

end Held

/-- The windows begin on every line that enough lines follow. -/
theorem windows_eq_map {size : Nat} (hsize : 0 < size) (ls : List Text) :
    windows size ls =
      (List.range (ls.length + 1 - size)).map fun i => (ls.drop i).take size := by
  induction ls with
  | nil =>
      have hnone : ([] : List Text).length + 1 - size = 0 := by
        rw [List.length_nil]
        omega
      rw [windows, hnone]
      rfl
  | cons line rest ih =>
      rw [windows, List.length_take, List.length_cons]
      split
      · rename_i hfull
        have hnext : rest.length + 1 + 1 - size = (rest.length + 1 - size) + 1 := by omega
        rw [hnext, List.range_succ_eq_map, List.map_cons, List.map_map, ih]
        rfl
      · rename_i hshort
        have hnone : rest.length + 1 + 1 - size = 0 := by omega
        rw [hnone]
        rfl

/-- The windows of a source that are held against others. Each has five lines, and the last four
lines begin none. -/
def windowCount (language content : Text) : Nat :=
  let ls := Text.lines content
  (List.range (ls.length - 4)).countP fun i => Held (.ofLanguage language) ((ls.drop i).take 5)

theorem length_qualifyingWindows (language content : Text) :
    (qualifyingWindows (.ofLanguage language) (Text.lines content)).length =
      windowCount language content := by
  rw [qualifyingWindows, windows_eq_map (by decide), ← List.countP_eq_length_filter,
    List.countP_map, qualifies_eq_decide]
  rfl

theorem windowCount_lt_length_lines (language content : Text) :
    windowCount language content < (Text.lines content).length := by
  have hpos : 0 < (Text.lines content).length :=
    List.length_pos_iff.2 (Text.splitOn_ne_nil '\n' content)
  have hle : windowCount language content ≤ (List.range ((Text.lines content).length - 4)).length :=
    List.countP_le_length
  rw [List.length_range] at hle
  omega

/-! ## Sources -/

/-- The windows of some sources that are held against others. -/
def windowTotal (sources : List (Text × Text)) : Nat :=
  (sources.map fun s => windowCount s.1 s.2).foldr (· + ·) 0

/-- The lines of some sources. -/
def lineTotal (sources : List (Text × Text)) : Nat :=
  (sources.map fun s => (Text.lines s.2).length).foldr (· + ·) 0

@[simp] theorem windowTotal_cons (s : Text × Text) (sources : List (Text × Text)) :
    windowTotal (s :: sources) = windowCount s.1 s.2 + windowTotal sources := rfl

@[simp] theorem lineTotal_cons (s : Text × Text) (sources : List (Text × Text)) :
    lineTotal (s :: sources) = (Text.lines s.2).length + lineTotal sources := rfl

section Order

variable {sources sources' : List (Text × Text)}

theorem windowTotal_eq_of_perm (h : sources.Perm sources') :
    windowTotal sources = windowTotal sources' := by
  rw [windowTotal, windowTotal, ← List.sum_eq_foldr, ← List.sum_eq_foldr]
  exact (h.map _).sum_eq

theorem lineTotal_eq_of_perm (h : sources.Perm sources') :
    lineTotal sources = lineTotal sources' := by
  rw [lineTotal, lineTotal, ← List.sum_eq_foldr, ← List.sum_eq_foldr]
  exact (h.map _).sum_eq

end Order

/-- The windows of some sources that are held against others, one source after the other. -/
def heldWindows (sources : List (Text × Text)) : List (List Text) :=
  sources.flatMap fun s => qualifyingWindows (.ofLanguage s.1) (Text.lines s.2)

theorem length_heldWindows (sources : List (Text × Text)) :
    (heldWindows sources).length = windowTotal sources := by
  rw [heldWindows, List.length_flatMap, windowTotal, List.sum_eq_foldr]
  simp only [length_qualifyingWindows]

namespace SourceCounts

theorem files_ofSources (sources : List (Text × Text)) :
    (ofSources sources).files = sources.length := by
  induction sources with
  | nil => rfl
  | cons s sources ih =>
      rw [ofSources_cons, List.length_cons, Nat.add_comm, ← ih]
      rfl

theorem lines_ofSources (sources : List (Text × Text)) :
    (ofSources sources).lines = lineTotal sources := by
  induction sources with
  | nil => rfl
  | cons s sources ih =>
      rw [ofSources_cons, lineTotal_cons, ← ih]
      rfl

/-- The keys are those of the windows that are held against others. -/
theorem keys_ofSources (sources : List (Text × Text)) :
    (ofSources sources).keys = (heldWindows sources).map (shape ∘ windowText) := by
  induction sources with
  | nil => rfl
  | cons s sources ih =>
      rw [ofSources_cons, heldWindows, List.flatMap_cons, List.map_append, ← heldWindows, ← ih]
      rfl

theorem length_keys_ofSources (sources : List (Text × Text)) :
    (ofSources sources).keys.length = windowTotal sources := by
  rw [keys_ofSources, List.length_map, length_heldWindows]

/-! ## Consistency -/

/-- What the counts of sources have to do with each other: each source has a line that begins no
window, a line is a comment at most once, and each source has a path. -/
structure Consistent (c : SourceCounts) : Prop where
  windows_le : c.keys.length + c.files ≤ c.lines
  comments_le : c.comments ≤ c.lines
  files_le : c.files ≤ c.cyclomatic
  eq_empty : c.files = 0 → c = {}

theorem consistent_empty : Consistent {} :=
  ⟨Nat.le_refl 0, Nat.le_refl 0, Nat.le_refl 0, fun _ => rfl⟩

theorem consistent_ofSource (language content : Text) : (ofSource language content).Consistent where
  windows_le := by
    have hlength : (ofSource language content).keys.length = windowCount language content := by
      rw [← length_qualifyingWindows]
      exact List.length_map _
    rw [hlength]
    exact windowCount_lt_length_lines language content
  comments_le := List.countP_le_length
  files_le := Nat.succ_le_succ (Nat.zero_le _)
  eq_empty := nofun

theorem Consistent.add {a b : SourceCounts} (ha : a.Consistent) (hb : b.Consistent) :
    (a + b).Consistent where
  windows_le := by
    have hlength : (a + b).keys.length = a.keys.length + b.keys.length := List.length_append
    have ha := ha.windows_le
    have hb := hb.windows_le
    change (a + b).keys.length + (a.files + b.files) ≤ a.lines + b.lines
    omega
  comments_le := Nat.add_le_add ha.comments_le hb.comments_le
  files_le := Nat.add_le_add ha.files_le hb.files_le
  eq_empty := by
    intro hfiles
    obtain ⟨hafiles, hbfiles⟩ := Nat.add_eq_zero_iff.1 hfiles
    rw [ha.eq_empty hafiles, hb.eq_empty hbfiles]
    rfl

theorem consistent_ofSources (sources : List (Text × Text)) : (ofSources sources).Consistent := by
  induction sources with
  | nil => exact consistent_empty
  | cons s sources ih => exact (consistent_ofSource s.1 s.2).add ih

end SourceCounts
end CodeSurvey
