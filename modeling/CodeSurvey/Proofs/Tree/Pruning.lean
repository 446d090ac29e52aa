import CodeSurvey.Proofs.Text.Blanks
import CodeSurvey.Proofs.Text.Words
import CodeSurvey.Proofs.Tree.Listing
import Mathlib.Data.List.Perm.Basic

/-!
# Pruning and filtering

A literal rule that covers a path covers whatever stands below it: a rule with a slash stands in the
path and so in every longer one, a rule without one is among the components, and a longer path only
has more of them. A wildcard may cover a folder and not what stands in it. So with literal rules
alone it makes no difference to the files that are found whether a walk leaves out what is ignored
as it comes to it, or finds everything and leaves it out afterwards.

## Main definitions

* `IsLiteral pattern`: the pattern is no wildcard.
* `Inherited ignores`: what stands in an ignored folder is ignored.
-/

namespace CodeSurvey

/-! ## Literal rules -/

/-- Whether a pattern has neither an asterisk nor a question mark. -/
def IsLiteral (pattern : Text) : Prop := '*' ∉ pattern ∧ '?' ∉ pattern

instance (pattern : Text) : Decidable (IsLiteral pattern) := inferInstanceAs (Decidable (_ ∧ _))

variable {patterns : List Text} {p : Text}

theorem isGlob_of_mem_rulesOf (h : ∀ pattern ∈ patterns, IsLiteral pattern) {r : IgnoreRule}
    (hr : r ∈ rulesOf patterns) : r.isGlob = false := by
  obtain ⟨pattern, hmem, hrule⟩ := List.mem_filterMap.1 hr
  obtain ⟨hstar, hmark⟩ := h pattern hmem
  have htrim : Text.trim pattern ⊆ pattern := by
    obtain ⟨front, back, -, -, heq⟩ := Text.exists_eq_append_trim pattern
    intro c hc
    rw [heq]
    exact List.mem_append_left _ (List.mem_append_right _ hc)
  split at hrule
  · simp at hrule
  · obtain rfl := Option.some.inj hrule
    simp only [IgnoreRule.isGlob, Bool.or_eq_false_iff, List.contains_eq_mem,
      decide_eq_false_iff_not]
    exact ⟨fun hc => hstar (htrim hc), fun hc => hmark (htrim hc)⟩

/-- A literal rule covers what stands below a path that it covers. -/
theorem IgnoreRule.covers_below {r : IgnoreRule} (hr : r.isGlob = false) (h : r.covers p = true)
    (q : Text) : r.covers (p ++ '/' :: q) = true := by
  rw [covers, Text.splitOn_append_cons]
  rw [covers] at h
  split at h
  · simp at h
  · rename_i hbody
    simp only [hr, Bool.false_eq_true, if_false, if_neg hbody] at h ⊢
    split at h
    · rename_i hslash
      rw [if_pos hslash, Text.occursIn_iff]
      exact (Text.occursIn_iff.1 h).trans (List.prefix_append _ _).isInfix
    · rename_i hslash
      rw [if_neg hslash, List.contains_iff_mem]
      exact List.mem_append_left _ (List.contains_iff_mem.1 h)

theorem ignored_below (h : ∀ pattern ∈ patterns, IsLiteral pattern)
    (hp : ignored (rulesOf patterns) p = true) (q : Text) :
    ignored (rulesOf patterns) (p ++ '/' :: q) = true := by
  rw [ignored, List.any_eq_true] at hp ⊢
  obtain ⟨r, hr, hcovers⟩ := hp
  exact ⟨r, hr, IgnoreRule.covers_below (isGlob_of_mem_rulesOf h hr) hcovers q⟩

/-- No literal rule covers the empty path. -/
theorem ignored_nil (h : ∀ pattern ∈ patterns, IsLiteral pattern) :
    ignored (rulesOf patterns) [] = false := by
  rw [ignored, List.any_eq_false]
  intro r hr
  rw [IgnoreRule.covers, isGlob_of_mem_rulesOf h hr]
  by_cases hbody : r.body = []
  · simp [hbody]
  · simp [hbody, Text.occursIn, Text.splitOn]

/-! ## Walks -/

/-- Whether what stands in a folder that is ignored is ignored too. -/
def Inherited (ignores : Text → Bool) : Prop :=
  ∀ folder name, ignores folder = true → ignores (Path.child folder name) = true

theorem inherited_ignored (h : ∀ pattern ∈ patterns, IsLiteral pattern) :
    Inherited (ignored (rulesOf patterns)) := by
  intro folder name hfolder
  rw [Path.child]
  split
  · rename_i hempty
    rw [List.isEmpty_iff.1 hempty, ignored_nil h] at hfolder
    contradiction
  · exact ignored_below h hfolder name

namespace Walk

/-- The walk without rules. -/
def freed (w : Walk) : Walk := { w with rules := [] }

variable {w : Walk} {levels : Nat} {name path : Text} {e : Entry} {entries : List (Text × Entry)}

/-- Anything but a folder is the same to the walk without rules. -/
theorem filesAt_freed (he : ∀ entries, e ≠ .folder entries) :
    w.freed.filesAt levels name path e = w.filesAt levels name path e := by
  cases e with
  | folder entries => exact absurd rfl (he entries)
  | file | link =>
      rw [filesAt, filesAt, node?, node?]
      rfl

/-- Anything but a folder is found by its own path alone. -/
theorem eq_of_mem_filesAt (he : ∀ entries, e ≠ .folder entries)
    (hp : p ∈ w.filesAt levels name path e) : p = path := by
  rcases filesAt_of_ne_folder w levels name path he with ⟨-, hfiles⟩ | ⟨-, hfiles⟩
  · simpa [hfiles] using hp
  · simp [hfiles] at hp

/-- All files at or below an ignored entry are ignored. -/
theorem ignored_of_mem_filesAt (h : Inherited (ignored w.rules))
    (hpath : ignored w.rules path = true) (hp : p ∈ w.freed.filesAt levels name path e) :
    ignored w.rules p = true := by
  induction levels generalizing name path e with
  | zero =>
      cases e with
      | file | link => rwa [eq_of_mem_filesAt (by simp) hp]
      | folder entries => simp [filesAt_folder_zero] at hp
  | succ levels ih =>
      cases e with
      | file | link => rwa [eq_of_mem_filesAt (by simp) hp]
      | folder entries =>
          obtain ⟨c, -, hc⟩ := List.mem_flatMap.1 (filesAt_folder_succ.mem_iff.1 hp)
          exact ih (h path c.1 hpath) (mem_filesIn.1 hc).2

/-- A single file that is not ignored is left by the filter. -/
theorem filesAt_perm_filter_of_ne_folder (he : ∀ entries, e ≠ .folder entries)
    (hpath : ignored w.rules path = false) :
    (w.filesAt levels name path e).Perm
      ((w.freed.filesAt levels name path e).filter fun p => !ignored w.rules p) := by
  rw [filesAt_freed he, List.filter_eq_self.2]
  intro p hp
  rw [eq_of_mem_filesAt he hp, hpath]
  rfl

/-- Where whatever stands in an ignored folder is ignored, a walk finds what the walk without rules
finds, less what is ignored. -/
theorem filesAt_perm_filter (h : Inherited (ignored w.rules))
    (hpath : ignored w.rules path = false) :
    (w.filesAt levels name path e).Perm
      ((w.freed.filesAt levels name path e).filter fun p => !ignored w.rules p) := by
  induction levels generalizing name path e with
  | zero =>
      cases e with
      | file | link => exact filesAt_perm_filter_of_ne_folder (by simp) hpath
      | folder entries => simp [filesAt_folder_zero]
  | succ levels ih =>
      cases e with
      | file | link => exact filesAt_perm_filter_of_ne_folder (by simp) hpath
      | folder entries =>
          refine filesAt_folder_succ.trans ?_
          refine .trans ?_ (filesAt_folder_succ.filter _).symm
          rw [List.filter_flatMap]
          refine List.Perm.flatMap_left _ fun c _ => ?_
          rw [filesIn]
          split
          · -- The entry is ignored: the walk passes it by, and the filter takes away all of it.
            rename_i hc
            rw [List.filter_eq_nil_iff.2]
            intro p hp
            rw [ignored_of_mem_filesAt h hc (mem_filesIn.1 hp).2]
            simp
          · rename_i hc
            exact ih (by simpa using hc)

end Walk

/-! ## Snapshots -/

namespace Snapshot

variable {fs : FileSystem} {root : Location} {s : Settings}

theorem pairwise_files (fs : FileSystem) (root : Location) (s : Settings) :
    (take fs root s).files.Pairwise (· ≤ ·) := by
  have hranks : RanksBy Text.le (fun t : Text => t) := fun _ _ => Text.le_eq_true_iff
  exact hranks.pairwise_mergeSort _

/-- The snapshot without patterns is that of the walk without rules. -/
theorem files_perm_filesAt_freed (fs : FileSystem) (root : Location) (s : Settings) :
    (take fs root { s with ignorePatterns := [] }).files.Perm
      ((Walk.ofSettings fs root s .byPath).freed.filesAt s.maxDepth.toNat (Walk.rootName root)
        (Path.ofNames []) (.folder (Walk.rootEntries fs root))) :=
  files_perm_filesAt fs root { s with ignorePatterns := [] }

/-- What literal patterns ignore they ignore with all that stands below it, and the files of a
snapshot are those of the snapshot without patterns, less what is ignored. -/
theorem files_eq_filter (fs : FileSystem) (root : Location) (s : Settings)
    (h : ∀ pattern ∈ s.ignorePatterns, IsLiteral pattern) :
    (∀ p q, ignored (rulesOf s.ignorePatterns) p = true →
        ignored (rulesOf s.ignorePatterns) (p ++ '/' :: q) = true) ∧
      (take fs root s).files = (take fs root { s with ignorePatterns := [] }).files.filter
        fun p => !ignored (rulesOf s.ignorePatterns) p := by
  refine ⟨fun p q hp => ignored_below h hp q, ?_⟩
  have hwalk : ((Walk.ofSettings fs root s .byPath).filesAt s.maxDepth.toNat (Walk.rootName root)
      (Path.ofNames []) (.folder (Walk.rootEntries fs root))).Perm
      (((Walk.ofSettings fs root s .byPath).freed.filesAt s.maxDepth.toNat (Walk.rootName root)
        (Path.ofNames []) (.folder (Walk.rootEntries fs root))).filter
          fun p => !ignored (rulesOf s.ignorePatterns) p) :=
    Walk.filesAt_perm_filter (inherited_ignored h) (ignored_nil h)
  have hperm := (files_perm_filesAt fs root s).trans
    (hwalk.trans ((files_perm_filesAt_freed fs root s).filter _).symm)
  -- Both lists are in the order of code points, so they are one list.
  exact hperm.eq_of_pairwise (fun a b _ _ => le_antisymm) (pairwise_files fs root s)
    ((pairwise_files fs root _).filter _)

/-- A module below a folder that one literal pattern names, a module below one that another pattern
spells with the folder above it, and a module outside both. -/
def generated : FileSystem where
  top := [("app.py", .file ⟨#[120]⟩), ("build", .folder [("old.py", .file ⟨#[121]⟩)]),
    ("src", .folder [("gen", .folder [("api.py", .file ⟨#[122]⟩)])])]

/-- The settings with those two patterns. -/
def literalSettings : Settings :=
  { Settings.standard with ignorePatterns := ["build/", " src/gen "] }

/-- The module below the two folders is ignored with the folder that holds it, so no walk by these
settings finds it. -/
theorem files_of_generated :
    (∀ pattern ∈ literalSettings.ignorePatterns, IsLiteral pattern) ∧
      (take generated [] literalSettings).files =
        (take generated [] { literalSettings with ignorePatterns := [] }).files.filter
          (fun p => !ignored (rulesOf literalSettings.ignorePatterns) p) ∧
      "src/gen/api.py".toList ∉ (take generated [] literalSettings).files := by
  have hliteral : ∀ pattern ∈ literalSettings.ignorePatterns, IsLiteral pattern := by decide
  obtain ⟨hbelow, hfiles⟩ := files_eq_filter generated [] literalSettings hliteral
  have hfolder : ignored (rulesOf literalSettings.ignorePatterns) "src/gen".toList = true := by
    decide +kernel
  have hmodule : ignored (rulesOf literalSettings.ignorePatterns) "src/gen/api.py".toList = true :=
    hbelow "src/gen".toList "api.py".toList hfolder
  refine ⟨hliteral, hfiles, fun hmem => ?_⟩
  rw [hfiles, List.mem_filter, hmodule] at hmem
  simp at hmem

/-- A wildcard for a path as a whole covers a folder, and not what stands in it. -/
example : ignored (rulesOf ["src/?".toList]) "src/a".toList = true ∧
    ignored (rulesOf ["src/?".toList]) "src/a/b.py".toList = false := by decide +kernel

end Snapshot
end CodeSurvey
