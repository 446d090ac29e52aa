import CodeSurvey.Proofs.Idiom.Uses
import CodeSurvey.Proofs.Ranking
import CodeSurvey.Proofs.Text.Pieces
import CodeSurvey.Settings.Basic
import Mathlib.Algebra.BigOperators.Group.List.Basic
import Mathlib.Algebra.GroupWithZero.Nat

/-!
# How the uses of idioms are reported

The uses of idioms are in strict order of falling frequency and then of names, so that no idiom is
reported twice. Each use counts at least once for every file that shows it, and is illustrated by
the first of these files, one excerpt each. The excerpts of one use are told apart by their
identifiers: these begin with the path and end with a hyphen and what has no hyphen.

## Main definitions

* `IdiomUse.key`: what uses are ranked by.
* `IdiomUse.Illustrated files u`: what holds of every use in some files.
-/

namespace CodeSurvey

/-! ## Parts of lists -/

/-- Items that are made of some of the items of a list and keep something of them keep it in the
order of the list. -/
theorem map_filterMap_sublist {α β γ : Type} {f : α → Option β} {g : β → γ} {h : α → γ}
    (hkeep : ∀ a b, f a = some b → g b = h a) (l : List α) :
    ((l.filterMap f).map g).Sublist (l.map h) := by
  induction l with
  | nil => simp
  | cons a l ih =>
      rw [List.map_cons]
      cases hfa : f a with
      | none =>
          rw [List.filterMap_cons_none hfa]
          exact ih.cons _
      | some b =>
          rw [List.filterMap_cons_some hfa, List.map_cons, hkeep a b hfa]
          exact ih.cons_cons _

theorem Text.hyphen_not_mem_ofNat (n : Nat) : '-' ∉ Text.ofNat n := fun h => by
  have hdigit := Nat.isDigit_of_mem_toDigits (by decide) (by decide) h
  revert hdigit
  decide

/-! ## One idiom -/

namespace Idiom

variable {i : Idiom} {path path' t t' : Text} {e e' : Excerpt} {n n' : Nat}

theorem one_le_of_showing? (h : i.showing? path t = some (n, e)) : 1 ≤ n := by
  rcases showing?_eq_some h with ⟨-, rfl, -⟩ | ⟨r, m, rest, -, -, rfl, -⟩
  · exact Nat.le_refl 1
  · exact Nat.le_add_left 1 rest.length

/-- The only tag of an example is the name of the idiom. -/
theorem tags_of_showing? (h : i.showing? path t = some (n, e)) : e.tags = [i.name] := by
  rcases showing?_eq_some h with ⟨-, -, rfl⟩ | ⟨r, m, rest, -, -, -, rfl⟩
  · rfl
  · rfl

/-- An identifier is made of the path, a hyphen and what has none. -/
theorem exists_id_of_showing? (h : i.showing? path t = some (n, e)) :
    ∃ s, '-' ∉ s ∧ e.id = path ++ '-' :: s := by
  rcases showing?_eq_some h with ⟨-, -, rfl⟩ | ⟨r, m, rest, -, -, -, rfl⟩
  · exact ⟨"file".toList, by decide, rfl⟩
  · exact ⟨_, Text.hyphen_not_mem_ofNat _, rfl⟩

/-- Examples from different files have different identifiers. -/
theorem path_eq_of_id_eq (h : i.showing? path t = some (n, e))
    (h' : i.showing? path' t' = some (n', e')) (hid : e.id = e'.id) : e.path = e'.path := by
  obtain ⟨s, hs, hpath⟩ := exists_id_of_showing? h
  obtain ⟨s', hs', hpath'⟩ := exists_id_of_showing? h'
  rw [hpath, hpath'] at hid
  rw [(shown_of_showing? h).path_eq, (shown_of_showing? h').path_eq]
  exact Text.eq_of_append_separator_eq hs hs' hid

/-- The files that show an idiom are some of the sources, in their order. -/
theorem paths_showings_sublist (i : Idiom) (sources : List (Text × Text)) :
    ((i.showings sources).map fun x => x.2.path).Sublist (sources.map (·.1)) :=
  map_filterMap_sublist (fun _ _ h => (shown_of_showing? h).path_eq) sources

/-- There are no more files that show an idiom than it is counted. -/
theorem length_showings_le_sum (i : Idiom) (sources : List (Text × Text)) :
    (i.showings sources).length ≤ ((i.showings sources).map (·.1)).sum := by
  rw [← List.length_map (f := fun x : Nat × Excerpt => x.1)]
  refine List.length_le_sum_of_one_le _ fun n hn => ?_
  obtain ⟨⟨n, e⟩, hmem, rfl⟩ := List.mem_map.1 hn
  obtain ⟨path, t, -, hshow⟩ := mem_showings.1 hmem
  exact one_le_of_showing? hshow

end Idiom

/-! ## All idioms -/

namespace IdiomUse

/-- What uses of idioms are ranked by: falling frequency, then the name. -/
def key (u : IdiomUse) : Lex (Int × Text) := toLex (-(u.frequency : Int), u.name)

theorem ranksBy_key : RanksBy le key := by
  intro a b
  rw [le, key, key, toLex_neg_le_toLex_neg_iff, ← Text.le_eq_true_iff]
  by_cases hfrequency : a.frequency = b.frequency
  · simp [hfrequency]
  · simp [hfrequency]

/-- Whether a use of an idiom has its examples from some files, no more of them than it counts: at
most three, from different files in their order, told apart by their identifiers and tagged with the
name of the idiom alone. -/
structure Illustrated (files : List Text) (u : IdiomUse) : Prop where
  frequent : 1 ≤ u.frequency
  shown : 1 ≤ u.examples.length
  length_le_three : u.examples.length ≤ 3
  length_le_frequency : u.examples.length ≤ u.frequency
  paths_sublist : (u.examples.map Excerpt.path).Sublist files
  paths_distinct : (u.examples.map Excerpt.path).Nodup
  ids_distinct : (u.examples.map Excerpt.id).Nodup
  tags_eq : ∀ e ∈ u.examples, e.tags = [u.name]

end IdiomUse

variable {read : Text → Except ReadFailure Text} {files : List Text} {u : IdiomUse}

theorem paths_codeSources_sublist (read : Text → Except ReadFailure Text) (files : List Text) :
    ((codeSources read files).map (·.1)).Sublist files := by
  have hread : ((codeSources read files).map (·.1)).Sublist
      ((files.filter isCode).map fun p => p) := by
    refine map_filterMap_sublist (fun p source h => ?_) _
    obtain ⟨t, -, rfl⟩ := Option.map_eq_some_iff.1 h
    rfl
  rw [List.map_id'] at hread
  exact hread.trans List.filter_sublist

/-- The use of an idiom in distinct files is illustrated by some of them. -/
theorem Idiom.illustrated_of_use? {i : Idiom} {sources : List (Text × Text)}
    (hsources : (sources.map (·.1)).Sublist files) (hfiles : files.Nodup)
    (h : i.use? sources = some u) : u.Illustrated files := by
  obtain ⟨hne, hname, hfrequency, hexamples⟩ := use?_eq_some h
  have hpos := List.length_pos_iff.2 hne
  have hle : (i.showings sources).length ≤ u.frequency :=
    hfrequency ▸ i.length_showings_le_sum sources
  have hlength : u.examples.length = min 3 (i.showings sources).length := by
    rw [hexamples, List.length_take, List.length_map, exampleLimit]
  have hpaths : (u.examples.map Excerpt.path).Sublist files := by
    rw [hexamples, List.map_take, List.map_map]
    exact (List.take_sublist _ _).trans ((i.paths_showings_sublist sources).trans hsources)
  have hdistinct := hfiles.sublist hpaths
  refine ⟨by omega, by omega, by omega, by omega, hpaths, hdistinct, ?_, fun e he => ?_⟩
  · rw [List.Nodup, List.pairwise_map] at hdistinct ⊢
    refine hdistinct.imp_of_mem fun {a b} ha hb hne hid => hne ?_
    obtain ⟨path, t, n, -, hshow⟩ := exists_showing_of_mem_examples h ha
    obtain ⟨path', t', n', -, hshow'⟩ := exists_showing_of_mem_examples h hb
    exact path_eq_of_id_eq hshow hshow' hid
  · obtain ⟨path, t, n, -, hshow⟩ := exists_showing_of_mem_examples h he
    rw [hname]
    exact tags_of_showing? hshow

theorem Idiom.nodup_names_catalog : (catalog.map Idiom.name).Nodup := by
  decide +kernel

/-- No idiom is used twice. -/
theorem nodup_names_uses (sources : List (Text × Text)) :
    ((Idiom.catalog.filterMap (·.use? sources)).map IdiomUse.name).Nodup :=
  Idiom.nodup_names_catalog.sublist
    (map_filterMap_sublist (fun _ _ h => Idiom.name_of_use? h) Idiom.catalog)

/-- The idioms that distinct files show are in strict order of falling frequency and then of names,
without a name twice, and each is illustrated by some of the files. -/
theorem surveyIdioms_ranked_and_illustrated (fs : FileSystem) (root : Location) (s : Settings)
    {files : List Text} (hfiles : files.Nodup) :
    let uses := surveyIdioms (fs.readSource root (some s.maxFileSize)) files
    (uses.map IdiomUse.key).Pairwise (· < ·) ∧ (uses.map IdiomUse.name).Nodup ∧
      ∀ u ∈ uses, u.Illustrated files := by
  intro uses
  let sources := codeSources (fs.readSource root (some s.maxFileSize)) files
  have hnames := nodup_names_uses sources
  have hkeys : ((Idiom.catalog.filterMap (·.use? sources)).map IdiomUse.key).Nodup :=
    nodup_keys_of_part (fun k => (ofLex k).2) (fun _ => rfl) hnames
  refine ⟨IdiomUse.ranksBy_key.pairwise_mergeSort_lt hkeys, ?_, fun u hu => ?_⟩
  · exact ((List.mergeSort_perm _ IdiomUse.le).map IdiomUse.name).nodup_iff.2 hnames
  · obtain ⟨i, -, huse⟩ := List.mem_filterMap.1 (List.mem_mergeSort.1 hu)
    exact Idiom.illustrated_of_use? (paths_codeSources_sublist _ files) hfiles huse

/-- A module that declares a class of data, and a model. -/
def modelled : FileSystem where
  top := [("app.py", .file (Utf8.encode "@dataclass".toList)),
    ("models", .folder [("user.py", .file ⟨#[120]⟩)])]

/-- The class shows an idiom, and so does the folder of the model. -/
theorem illustrated_of_modelled :
    let files : List Text := ["app.py", "models/user.py"]
    let uses := surveyIdioms (modelled.readSource [] (some Settings.standard.maxFileSize)) files
    files.Nodup ∧ uses.length = 2 ∧ (uses.map IdiomUse.key).Pairwise (· < ·) ∧
      ∀ u ∈ uses, u.Illustrated files := by
  intro files uses
  have hfiles : files.Nodup := by decide +kernel
  obtain ⟨hordered, -, hillustrated⟩ :=
    surveyIdioms_ranked_and_illustrated modelled [] .standard hfiles
  refine ⟨hfiles, ?_, hordered, hillustrated⟩
  simp only [uses, surveyIdioms, detectIdioms, List.length_mergeSort]
  decide +kernel

end CodeSurvey
