import CodeSurvey.Proofs.FileSystem.Sound
import CodeSurvey.Proofs.Glob.Cut
import CodeSurvey.Proofs.Text.Words

/-!
# Globs and the components of a path

A path can be cut by a glob anywhere, but the globs that pass folders meet its components only: what
comes behind the folders begins with a component, a spelled folder takes one component as a whole,
and what stays inside one folder takes the name of the file. So a glob for the files below a folder
asks for that folder among the components and for the rest of the glob on the name.

## Main definitions

* `PathGlob.spelled t`: the pieces that stand for the text `t`.
* `PathGlob.Piece.isInside`: the piece takes no slash.
* `PathGlob.below folder pieces`: the glob for what stands below a folder.
-/

namespace CodeSurvey

/-! ## Components -/

namespace Path

variable {folders : List Text} {name : Text}

theorem mem_ofNames {names : Location} {c : Char} (h : c ∈ ofNames names) :
    c = '/' ∨ ∃ n ∈ names, c ∈ n := by
  induction names with
  | nil => simp at h
  | cons n names ih =>
      by_cases hnames : names = []
      · subst hnames
        exact .inr ⟨n, List.mem_cons_self, by simpa [ofNames, Text.joinWith] using h⟩
      · rw [ofNames, Text.joinWith, List.intercalate_cons_of_ne_nil hnames] at h
        rcases List.mem_append.1 h with h | h
        · rcases List.mem_append.1 h with h | h
          · exact .inr ⟨n, List.mem_cons_self, h⟩
          · exact .inl (List.mem_singleton.1 h)
        · obtain hslash | ⟨m, hm, hc⟩ := ih h
          · exact .inl hslash
          · exact .inr ⟨m, List.mem_cons_of_mem _ hm, hc⟩

theorem ofNames_append {above below : List Text} (habove : above ≠ []) (hbelow : below ≠ []) :
    ofNames (above ++ below) = ofNames above ++ '/' :: ofNames below := by
  rw [ofNames, Text.joinWith_append _ habove hbelow, List.append_assoc]
  rfl

@[simp] theorem ofNames_singleton (name : Text) : ofNames [name] = name := by
  simp [ofNames, Text.joinWith]

theorem ofNames_cons_concat (first : Text) (below : List Text) (name : Text) :
    ofNames (first :: below ++ [name]) = first ++ '/' :: ofNames (below ++ [name]) := by
  rw [List.cons_append, ← List.singleton_append, ofNames_append (by simp) (by simp),
    ofNames_singleton]

/-- What stands behind a slash of a path are its last components. -/
theorem exists_below_of_ofNames_eq (h : ∀ n ∈ folders ++ [name], '/' ∉ n) {before rest : Text}
    (heq : ofNames (folders ++ [name]) = before ++ '/' :: rest) :
    ∃ below, below <:+ folders ∧ rest = ofNames (below ++ [name]) := by
  have hsplit : Text.splitOn '/' before ++ Text.splitOn '/' rest = folders ++ [name] := by
    rw [← Text.splitOn_joinWith h (by simp), ← ofNames, heq, Text.splitOn_append_cons]
  rcases List.eq_nil_or_concat (Text.splitOn '/' rest) with hnil | ⟨below, last, hrest⟩
  · exact absurd hnil (Text.splitOn_ne_nil '/' rest)
  · rw [List.concat_eq_append] at hrest
    rw [hrest, ← List.append_assoc] at hsplit
    obtain ⟨rfl, hlast⟩ := List.append_inj' hsplit rfl
    refine ⟨below, List.suffix_append _ _, ?_⟩
    rw [← hlast, ← hrest, ofNames, Text.joinWith_splitOn]

end Path

namespace PathGlob

variable {pieces : List Piece} {folders : List Text} {folder name path w : Text}

/-! ## Pieces in a row -/

/-- The pieces that stand for a text, character by character. -/
def spelled (t : Text) : List Piece := t.map .literal

theorem cut_spelled_append : Cut (spelled w ++ pieces) path ↔ ∃ rest, path = w ++ rest ∧
    Cut pieces rest := by
  induction w generalizing path with
  | nil => simp [spelled]
  | cons c w ih =>
      rw [spelled, List.map_cons, List.cons_append, ← spelled, cut_cons]
      simp only [ih, Piece.Takes]
      constructor
      · rintro ⟨_, _, rfl, rfl, rest, rfl, hrest⟩
        exact ⟨rest, rfl, hrest⟩
      · rintro ⟨rest, rfl, hrest⟩
        exact ⟨[c], w ++ rest, rfl, rfl, rest, rfl, hrest⟩

theorem cut_spelled : Cut (spelled w) path ↔ path = w := by
  have h : Cut (spelled w ++ []) path ↔ ∃ rest, path = w ++ rest ∧ Cut [] rest :=
    cut_spelled_append
  simpa [cut_nil] using h

theorem cut_choice {spellings : List Text} : Cut [.choice spellings] path ↔ path ∈ spellings := by
  rw [cut_cons]
  simp [cut_nil, Piece.Takes]

theorem cut_inside : Cut [.inside] path ↔ '/' ∉ path := by
  rw [cut_cons]
  simp [cut_nil, Piece.Takes]

theorem cut_anything : Cut [.anything] path :=
  cut_cons.2 ⟨path, [], by simp, trivial, cut_nil.2 rfl⟩

/-- Inside one folder a run takes any beginning. -/
theorem cut_inside_cons (h : '/' ∉ name) : Cut (.inside :: pieces) name ↔
    ∃ rest, rest <:+ name ∧ Cut pieces rest := by
  rw [cut_cons]
  constructor
  · rintro ⟨part, rest, rfl, -, hrest⟩
    exact ⟨rest, List.suffix_append _ _, hrest⟩
  · rintro ⟨rest, ⟨part, rfl⟩, hrest⟩
    exact ⟨part, rest, rfl, fun hmem => h (List.mem_append_left _ hmem), hrest⟩

/-! ## Pieces that stay inside one folder -/

/-- Whether a piece takes no slash. -/
def Piece.isInside : Piece → Bool
  | .folders | .anything => false
  | .inside | .one => true
  | .choice spellings => spellings.all fun spelling => !spelling.contains '/'
  | .literal c => c != '/'

theorem Piece.slash_not_mem {p : Piece} {part : Text} (hp : p.isInside = true) (h : p.Takes part) :
    '/' ∉ part := by
  cases p with
  | folders | anything => simp [isInside] at hp
  | inside => exact h
  | one =>
      obtain ⟨c, hc, rfl⟩ := h
      simpa using hc.symm
  | choice spellings => simpa using List.all_eq_true.1 hp part h
  | literal c =>
      have hc : c ≠ '/' := by simpa [isInside] using hp
      rw [show part = [c] from h, List.mem_singleton]
      exact hc.symm

theorem Cut.slash_not_mem (h : Cut pieces path) (hpieces : ∀ p ∈ pieces, p.isInside = true) :
    '/' ∉ path := by
  induction pieces generalizing path with
  | nil =>
      rw [cut_nil.1 h]
      simp
  | cons p pieces ih =>
      obtain ⟨part, rest, rfl, htakes, hrest⟩ := cut_cons.1 h
      rw [List.mem_append, not_or]
      exact ⟨p.slash_not_mem (hpieces p List.mem_cons_self) htakes,
        ih hrest fun q hq => hpieces q (List.mem_cons_of_mem _ hq)⟩

/-! ## Globs on components -/

/-- Behind the folders that a glob passes, its pieces take some last components. -/
theorem cut_folders_cons (h : ∀ n ∈ folders ++ [name], '/' ∉ n) :
    Cut (.folders :: pieces) (Path.ofNames (folders ++ [name])) ↔
      ∃ below, below <:+ folders ∧ Cut pieces (Path.ofNames (below ++ [name])) := by
  rw [cut_cons]
  constructor
  · rintro ⟨part, rest, heq, rfl | hlast, hrest⟩
    · exact ⟨folders, List.suffix_refl _, by rwa [heq]⟩
    · obtain ⟨before, rfl⟩ := List.getLast?_eq_some_iff.1 hlast
      rw [List.append_assoc, List.singleton_append] at heq
      obtain ⟨below, hbelow, rfl⟩ := Path.exists_below_of_ofNames_eq h heq
      exact ⟨below, hbelow, hrest⟩
  · rintro ⟨below, ⟨above, rfl⟩, hcut⟩
    by_cases habove : above = []
    · subst habove
      exact ⟨[], _, rfl, .inl rfl, hcut⟩
    · refine ⟨Path.ofNames above ++ ['/'], _, ?_, .inr (by simp), hcut⟩
      rw [List.append_assoc, Path.ofNames_append habove (by simp)]
      simp

/-- A spelled folder is one component. -/
theorem cut_component (h : ∀ n ∈ folders ++ [name], '/' ∉ n) (hfolder : '/' ∉ folder) :
    Cut (spelled folder ++ .literal '/' :: pieces) (Path.ofNames (folders ++ [name])) ↔
      ∃ below, folders = folder :: below ∧ Cut pieces (Path.ofNames (below ++ [name])) := by
  have hslash : ∀ t : Text, Cut (.literal '/' :: pieces) t ↔ ∃ rest, t = '/' :: rest ∧
      Cut pieces rest := fun t => cut_spelled_append (w := ['/'])
  simp only [cut_spelled_append, hslash]
  constructor
  · rintro ⟨_, heq, rest, rfl, hrest⟩
    cases folders with
    | nil =>
        have hname : name = folder ++ '/' :: rest := by simpa using heq
        have hnot : '/' ∉ name := h name (by simp)
        simp [hname] at hnot
    | cons first below =>
        rw [Path.ofNames_cons_concat] at heq
        obtain ⟨rfl, rfl⟩ := Text.eq_of_separator_append_eq (h first (by simp)) hfolder heq
        exact ⟨below, rfl, hrest⟩
  · rintro ⟨below, rfl, hcut⟩
    exact ⟨_, Path.ofNames_cons_concat folder below name, _, rfl, hcut⟩

/-- Pieces that take no slash take the name of the file alone. -/
theorem cut_ofNames_iff (hpieces : ∀ p ∈ pieces, p.isInside = true) :
    Cut pieces (Path.ofNames (folders ++ [name])) ↔ folders = [] ∧ Cut pieces name := by
  cases folders with
  | nil => simp
  | cons first below =>
      refine iff_of_false (fun hcut => hcut.slash_not_mem hpieces ?_) (by simp)
      rw [Path.ofNames_cons_concat]
      simp

/-- Behind any folders such pieces take the name of the file, too. -/
theorem cut_name_iff (h : ∀ n ∈ folders ++ [name], '/' ∉ n)
    (hpieces : ∀ p ∈ pieces, p.isInside = true) :
    Cut (.folders :: pieces) (Path.ofNames (folders ++ [name])) ↔ Cut pieces name := by
  simp only [cut_folders_cons h, cut_ofNames_iff hpieces]
  constructor
  · rintro ⟨_, -, -, hname⟩
    exact hname
  · exact fun hname => ⟨[], List.nil_suffix, rfl, hname⟩

/-! ## What stands below a folder -/

/-- The glob of what stands anywhere below the folders of some name, as the pieces tell. -/
def below (folder : Text) (pieces : List Piece) : List Piece :=
  .folders :: (spelled folder ++ .literal '/' :: pieces)

/-- The folder is a component, and the pieces take the components behind it. -/
theorem cut_below_iff (h : ∀ n ∈ folders ++ [name], '/' ∉ n) (hfolder : '/' ∉ folder) :
    Cut (below folder pieces) (Path.ofNames (folders ++ [name])) ↔
      ∃ behind, folder :: behind <:+ folders ∧ Cut pieces (Path.ofNames (behind ++ [name])) := by
  have hlast {some : List Text} (hsome : some <:+ folders) : ∀ n ∈ some ++ [name], '/' ∉ n :=
    fun n hn => h n ((hsome.sublist.append_right [name]).subset hn)
  rw [below, cut_folders_cons h]
  constructor
  · rintro ⟨some, hsome, hcut⟩
    obtain ⟨behind, rfl, hbehind⟩ := (cut_component (hlast hsome) hfolder).1 hcut
    exact ⟨behind, hsome, hbehind⟩
  · rintro ⟨behind, hbehind, hcut⟩
    exact ⟨_, hbehind, (cut_component (hlast hbehind) hfolder).2 ⟨behind, rfl, hcut⟩⟩

theorem exists_cons_suffix_iff : (∃ behind, folder :: behind <:+ folders) ↔ folder ∈ folders := by
  constructor
  · rintro ⟨behind, above, rfl⟩
    simp
  · intro h
    obtain ⟨above, behind, rfl⟩ := List.append_of_mem h
    exact ⟨behind, above, rfl⟩

/-- Anything below a folder. -/
theorem cut_below_anything_iff (h : ∀ n ∈ folders ++ [name], '/' ∉ n) (hfolder : '/' ∉ folder) :
    Cut (below folder [.anything]) (Path.ofNames (folders ++ [name])) ↔ folder ∈ folders := by
  simp only [cut_below_iff h hfolder, cut_anything, and_true, exists_cons_suffix_iff]

/-- The files below a folder, at any depth, whose names some pieces take. -/
theorem cut_below_folders_iff (h : ∀ n ∈ folders ++ [name], '/' ∉ n) (hfolder : '/' ∉ folder)
    (hpieces : ∀ p ∈ pieces, p.isInside = true) :
    Cut (below folder (.folders :: pieces)) (Path.ofNames (folders ++ [name])) ↔
      folder ∈ folders ∧ Cut pieces name := by
  rw [cut_below_iff h hfolder, ← exists_cons_suffix_iff, ← exists_and_right]
  refine exists_congr fun behind => and_congr_right fun hbehind => cut_name_iff (fun n hn => ?_)
    hpieces
  have hsub : behind.Sublist folders :=
    (List.sublist_cons_self folder behind).trans hbehind.sublist
  exact h n ((hsub.append_right [name]).subset hn)

/-! ## Names of files -/

/-- The pieces for names that end in a text with one of some spellings behind it. -/
def endingIn (w : Text) (spellings : List Text) : List Piece :=
  .inside :: (spelled w ++ [.choice spellings])

section Names

variable (h : '/' ∉ name)
include h

theorem cut_contains_iff : Cut (.inside :: (spelled w ++ [.inside])) name ↔ w <:+: name := by
  simp only [cut_inside_cons h, cut_spelled_append, cut_inside]
  constructor
  · rintro ⟨_, hsuffix, rest, rfl, -⟩
    exact (List.prefix_append w rest).isInfix.trans hsuffix.isInfix
  · rintro ⟨before, rest, rfl⟩
    exact ⟨w ++ rest, ⟨before, by simp⟩, rest, rfl, fun hmem => h (List.mem_append_right _ hmem)⟩

theorem cut_ends_iff : Cut (.inside :: spelled w) name ↔ w <:+ name := by
  simp only [cut_inside_cons h, cut_spelled]
  constructor
  · rintro ⟨_, hsuffix, rfl⟩
    exact hsuffix
  · exact fun hsuffix => ⟨w, hsuffix, rfl⟩

theorem cut_endingIn_iff {spellings : List Text} : Cut (endingIn w spellings) name ↔
    ∃ spelling ∈ spellings, w ++ spelling <:+ name := by
  simp only [endingIn, cut_inside_cons h, cut_spelled_append, cut_choice]
  constructor
  · rintro ⟨_, hsuffix, spelling, rfl, hmem⟩
    exact ⟨spelling, hmem, hsuffix⟩
  · rintro ⟨spelling, hmem, hsuffix⟩
    exact ⟨_, hsuffix, spelling, rfl, hmem⟩

/-- Between a beginning and an end. They cannot share a part of the name, as the end begins with a
character that the beginning does not have. -/
theorem cut_begins_ends_iff {start : Text} {c : Char} (hc : c ∉ start) :
    Cut (spelled start ++ .inside :: spelled (c :: w)) name ↔ start <+: name ∧ c :: w <:+ name := by
  rw [cut_spelled_append]
  constructor
  · rintro ⟨rest, rfl, hcut⟩
    have hrest : '/' ∉ rest := fun hmem => h (List.mem_append_right _ hmem)
    have hsuffix := (cut_ends_iff hrest).1 hcut
    exact ⟨List.prefix_append _ _, hsuffix.trans (List.suffix_append _ _)⟩
  · rintro ⟨⟨rest, rfl⟩, before, heq⟩
    have hrest : '/' ∉ rest := fun hmem => h (List.mem_append_right _ hmem)
    refine ⟨rest, rfl, (cut_ends_iff hrest).2 ?_⟩
    rcases List.append_eq_append_iff.1 heq with ⟨mid, rfl, htail⟩ | ⟨mid, -, htail⟩
    · cases mid with
      | nil => exact ⟨[], htail⟩
      | cons d mid =>
          obtain ⟨rfl, -⟩ := List.cons.inj htail
          simp at hc
    · exact ⟨mid, htail.symm⟩

end Names

end PathGlob
end CodeSurvey
