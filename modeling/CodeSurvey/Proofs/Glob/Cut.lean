import CodeSurvey.Glob.PathGlob
import Mathlib.Data.List.Forall2

/-!
# What a path glob matches

A glob means what its tokens say: it is read from left to right, and a path matches when it can be
cut into consecutive parts, one for each token, each of which the token takes. Reading is told here
by rules, one for each kind of token, and taking by a predicate on texts, so that neither mentions
how the matcher looks for the cut.

## Main definitions

* `PathGlob.Reads glob pieces`: the glob, read from left to right, consists of the pieces.
* `PathGlob.Piece.Takes p part`: the piece takes the part.
* `PathGlob.Cut pieces path`: the path can be cut into parts that the pieces take.
-/

namespace CodeSurvey
namespace PathGlob

/-! ## Meaning -/

/-- The rules by which a glob is read. Of several rules the one for the longest token applies, and a
brace that is never closed is a character like any other. -/
inductive Reads : Text → List Piece → Prop
  | nil : Reads [] []
  | folders {rest : Text} {pieces : List Piece} (h : Reads rest pieces) :
      Reads ('*' :: '*' :: '/' :: rest) (.folders :: pieces)
  | anything {rest : Text} {pieces : List Piece} (noSlash : rest.head? ≠ some '/')
      (h : Reads rest pieces) : Reads ('*' :: '*' :: rest) (.anything :: pieces)
  | inside {rest : Text} {pieces : List Piece} (noStar : rest.head? ≠ some '*')
      (h : Reads rest pieces) : Reads ('*' :: rest) (.inside :: pieces)
  | one {rest : Text} {pieces : List Piece} (h : Reads rest pieces) :
      Reads ('?' :: rest) (.one :: pieces)
  | choice {inner rest : Text} {pieces : List Piece} (noClose : '}' ∉ inner)
      (h : Reads rest pieces) :
      Reads ('{' :: inner ++ '}' :: rest) (.choice (Text.splitOn ',' inner) :: pieces)
  | unclosed {rest : Text} {pieces : List Piece} (noClose : '}' ∉ rest)
      (h : Reads rest pieces) : Reads ('{' :: rest) (.literal '{' :: pieces)
  | literal {c : Char} {rest : Text} {pieces : List Piece} (plain : c ∉ ['*', '?', '{'])
      (h : Reads rest pieces) : Reads (c :: rest) (.literal c :: pieces)

/-- What a piece takes of a path. -/
def Piece.Takes : Piece → Text → Prop
  | .folders, part => part = [] ∨ part.getLast? = some '/'
  | .anything, _ => True
  | .inside, part => '/' ∉ part
  | .one, part => ∃ c, c ≠ '/' ∧ part = [c]
  | .choice spellings, part => part ∈ spellings
  | .literal c, part => part = [c]

/-- The path can be cut into consecutive parts, one for each piece, that the pieces take. -/
def Cut (pieces : List Piece) (path : Text) : Prop :=
  ∃ parts : List Text, List.Forall₂ Piece.Takes pieces parts ∧ parts.flatten = path

theorem cut_nil {path : Text} : Cut [] path ↔ path = [] := by
  constructor
  · rintro ⟨parts, hparts, rfl⟩
    rw [List.forall₂_nil_left_iff.1 hparts]
    rfl
  · rintro rfl
    exact ⟨[], .nil, rfl⟩

theorem cut_cons {p : Piece} {pieces : List Piece} {path : Text} :
    Cut (p :: pieces) path ↔ ∃ part rest, path = part ++ rest ∧ p.Takes part ∧ Cut pieces rest := by
  constructor
  · rintro ⟨parts, hparts, rfl⟩
    obtain ⟨part, rest, htakes, hrest, rfl⟩ := List.forall₂_cons_left_iff.1 hparts
    exact ⟨part, rest.flatten, rfl, htakes, rest, hrest, rfl⟩
  · rintro ⟨part, rest, rfl, htakes, parts, hparts, rfl⟩
    exact ⟨part :: parts, .cons htakes hparts, rfl⟩

/-! ## Reading -/

/-- Skipped characters are left out. -/
theorem readFrom_eq_read_drop (n : Nat) (glob : Text) : readFrom n glob = read (glob.drop n) := by
  induction glob generalizing n with
  | nil => cases n <;> rfl
  | cons c glob ih =>
      cases n with
      | zero => rfl
      | succ n => exact ih n

@[simp] theorem read_nil : read [] = [] := rfl

@[simp] theorem read_folders (rest : Text) :
    read ('*' :: '*' :: '/' :: rest) = .folders :: read rest := rfl

theorem read_anything {rest : Text} (h : rest.head? ≠ some '/') :
    read ('*' :: '*' :: rest) = .anything :: read rest := by
  cases rest with
  | nil => rfl
  | cons c rest =>
      have hc : c ≠ '/' := by simpa using h
      simp [read, readFrom, hc]

theorem read_inside {rest : Text} (h : rest.head? ≠ some '*') :
    read ('*' :: rest) = .inside :: read rest := by
  cases rest with
  | nil => rfl
  | cons c rest =>
      have hc : c ≠ '*' := by simpa using h
      simp [read, readFrom, hc]

@[simp] theorem read_one (rest : Text) : read ('?' :: rest) = .one :: read rest := rfl

theorem read_choice {inner : Text} (h : '}' ∉ inner) (rest : Text) :
    read ('{' :: inner ++ '}' :: rest) =
      .choice (Text.splitOn ',' inner) :: read rest := by
  have htake : (inner ++ '}' :: rest).takeWhile (· != '}') = inner := by
    rw [List.takeWhile_append_of_pos]
    · simp
    · intro c hc
      have : c ≠ '}' := fun heq => h (heq ▸ hc)
      simpa using this
  have hdrop : (inner ++ '}' :: rest).drop (inner.length + 1) = rest := by simp
  rw [List.cons_append, read, readFrom]
  simp only [htake, readFrom_eq_read_drop, hdrop]
  simp

theorem read_unclosed {rest : Text} (h : '}' ∉ rest) :
    read ('{' :: rest) = .literal '{' :: read rest := by
  rw [read, readFrom]
  simp [h, read]

theorem read_literal {c : Char} (h : c ∉ ['*', '?', '{']) (rest : Text) :
    read (c :: rest) = .literal c :: read rest := by
  simp only [List.mem_cons, List.not_mem_nil, or_false, not_or] at h
  rw [read, readFrom]
  · rfl
  all_goals grind

theorem eq_read_of_reads {glob : Text} {pieces : List Piece} (h : Reads glob pieces) :
    pieces = read glob := by
  induction h with
  | nil => rfl
  | folders _ ih => rw [read_folders, ih]
  | anything noSlash _ ih => rw [read_anything noSlash, ih]
  | inside noStar _ ih => rw [read_inside noStar, ih]
  | one _ ih => rw [read_one, ih]
  | choice noClose _ ih => rw [read_choice noClose, ih]
  | unclosed noClose _ ih => rw [read_unclosed noClose, ih]
  | literal plain _ ih => rw [read_literal plain, ih]

/-- Every glob can be read. -/
theorem exists_reads (glob : Text) : ∃ pieces, Reads glob pieces := by
  -- A token can take several characters at once, so the induction is on the length.
  induction hn : glob.length using Nat.strongRecOn generalizing glob with
  | ind n ih =>
      subst hn
      cases glob with
      | nil => exact ⟨[], .nil⟩
      | cons c rest =>
          have hrest : ∀ tail : Text, tail.length ≤ rest.length → ∃ pieces, Reads tail pieces :=
            fun tail hle => ih tail.length (Nat.lt_succ_of_le hle) tail rfl
          by_cases hstar : c = '*'
          · subst hstar
            by_cases hstars : rest.head? = some '*'
            · obtain ⟨tail, rfl⟩ := List.head?_eq_some_iff.1 hstars
              by_cases hslash : tail.head? = some '/'
              · obtain ⟨tail, rfl⟩ := List.head?_eq_some_iff.1 hslash
                obtain ⟨pieces, h⟩ := hrest tail (by simp only [List.length_cons]; omega)
                exact ⟨_, .folders h⟩
              · obtain ⟨pieces, h⟩ := hrest tail (by simp)
                exact ⟨_, .anything hslash h⟩
            · obtain ⟨pieces, h⟩ := hrest rest (Nat.le_refl _)
              exact ⟨_, .inside hstars h⟩
          by_cases hone : c = '?'
          · subst hone
            obtain ⟨pieces, h⟩ := hrest rest (Nat.le_refl _)
            exact ⟨_, .one h⟩
          by_cases hbrace : c = '{'
          · subst hbrace
            by_cases hclose : '}' ∈ rest
            · obtain ⟨inner, tail, rfl, hinner⟩ := List.eq_append_cons_of_mem hclose
              have hle : tail.length ≤ (inner ++ '}' :: tail).length := by
                rw [List.length_append, List.length_cons]
                omega
              obtain ⟨pieces, h⟩ := hrest tail hle
              exact ⟨_, .choice hinner h⟩
            · obtain ⟨pieces, h⟩ := hrest rest (Nat.le_refl _)
              exact ⟨_, .unclosed hclose h⟩
          · obtain ⟨pieces, h⟩ := hrest rest (Nat.le_refl _)
            exact ⟨_, .literal (by simp [hstar, hone, hbrace]) h⟩

/-- The reader follows the rules, and no other pieces do. -/
theorem reads_iff {glob : Text} {pieces : List Piece} : Reads glob pieces ↔ pieces = read glob := by
  constructor
  · exact eq_read_of_reads
  · rintro rfl
    obtain ⟨pieces, h⟩ := exists_reads glob
    exact eq_read_of_reads h ▸ h

/-! ## Matching -/

/-- What is left after the beginnings of accepted characters. -/
theorem mem_rests {accepts : Char → Bool} {path rest : Text} :
    rest ∈ rests accepts path ↔ ∃ part, path = part ++ rest ∧ ∀ c ∈ part, accepts c = true := by
  induction path with
  | nil =>
      rw [rests, List.mem_singleton]
      constructor
      · rintro rfl
        exact ⟨[], rfl, by simp⟩
      · rintro ⟨part, h, -⟩
        exact (List.append_eq_nil_iff.1 h.symm).2
  | cons c path ih =>
      rw [rests, List.mem_cons]
      constructor
      · rintro (rfl | h)
        · exact ⟨[], rfl, by simp⟩
        · split at h
          · rename_i hc
            obtain ⟨part, rfl, hpart⟩ := ih.1 h
            exact ⟨c :: part, rfl, by simpa [hc] using hpart⟩
          · simp at h
      · rintro ⟨part, h, hpart⟩
        cases part with
        | nil => exact .inl h.symm
        | cons d part =>
            obtain ⟨rfl, rfl⟩ := List.cons.inj h
            rw [if_pos (hpart c List.mem_cons_self)]
            exact .inr (ih.2 ⟨part, rfl, fun x hx => hpart x (List.mem_cons_of_mem _ hx)⟩)

/-- What is left after the beginnings that end in a slash. -/
theorem mem_restsAfterSlash {path rest : Text} (h : '\n' ∉ path) :
    rest ∈ restsAfterSlash path ↔ ∃ part, path = part ++ '/' :: rest := by
  induction path with
  | nil => simp [restsAfterSlash]
  | cons c path ih =>
      have hc : c ≠ '\n' := fun heq => h (heq ▸ List.mem_cons_self)
      have ih := ih fun hmem => h (List.mem_cons_of_mem _ hmem)
      by_cases hslash : c = '/'
      · subst hslash
        simp only [restsAfterSlash, beq_iff_eq, hc, if_false, if_true, List.mem_cons, ih]
        constructor
        · rintro (rfl | ⟨part, rfl⟩)
          · exact ⟨[], rfl⟩
          · exact ⟨'/' :: part, rfl⟩
        · rintro ⟨part, heq⟩
          cases part with
          | nil => exact .inl (List.cons.inj heq).2.symm
          | cons d part => exact .inr ⟨part, (List.cons.inj heq).2⟩
      · simp only [restsAfterSlash, beq_iff_eq, hc, hslash, if_false, ih]
        constructor
        · rintro ⟨part, rfl⟩
          exact ⟨c :: part, rfl⟩
        · rintro ⟨part, heq⟩
          cases part with
          | nil => exact absurd (List.cons.inj heq).1 hslash
          | cons d part => exact ⟨part, (List.cons.inj heq).2⟩

/-- One piece takes a part, and the other pieces take the rest. -/
theorem covers_cons {p : Piece} {pieces : List Piece} {path : Text} (h : '\n' ∉ path) :
    covers (p :: pieces) path = true ↔
      ∃ part rest, path = part ++ rest ∧ p.Takes part ∧ covers pieces rest = true := by
  cases p with
  | folders =>
      simp only [covers, Bool.or_eq_true, List.any_eq_true, mem_restsAfterSlash h, Piece.Takes]
      constructor
      · rintro (hcov | ⟨rest, ⟨part, rfl⟩, hcov⟩)
        · exact ⟨[], path, rfl, .inl rfl, hcov⟩
        · exact ⟨part ++ ['/'], rest, by simp, .inr (by simp), hcov⟩
      · rintro ⟨part, rest, rfl, rfl | hlast, hcov⟩
        · exact .inl hcov
        · obtain ⟨part, rfl⟩ := List.getLast?_eq_some_iff.1 hlast
          exact .inr ⟨rest, ⟨part, by simp⟩, hcov⟩
  | anything =>
      simp only [covers, List.any_eq_true, mem_rests, Piece.Takes, true_and]
      constructor
      · rintro ⟨rest, ⟨part, rfl, -⟩, hcov⟩
        exact ⟨part, rest, rfl, hcov⟩
      · rintro ⟨part, rest, rfl, hcov⟩
        refine ⟨rest, ⟨part, rfl, fun c hc => ?_⟩, hcov⟩
        have : c ≠ '\n' := fun heq => h (heq ▸ List.mem_append_left _ hc)
        simpa using this
  | inside =>
      simp only [covers, List.any_eq_true, mem_rests, Piece.Takes]
      constructor
      · rintro ⟨rest, ⟨part, rfl, hpart⟩, hcov⟩
        exact ⟨part, rest, rfl, fun hmem => by simpa using hpart '/' hmem, hcov⟩
      · rintro ⟨part, rest, rfl, hpart, hcov⟩
        refine ⟨rest, ⟨part, rfl, fun c hc => ?_⟩, hcov⟩
        have : c ≠ '/' := fun heq => hpart (heq ▸ hc)
        simpa using this
  | one =>
      cases path with
      | nil => simp [covers, Piece.Takes]
      | cons c path =>
          simp only [covers, Bool.and_eq_true, bne_iff_ne, Piece.Takes]
          constructor
          · rintro ⟨hc, hcov⟩
            exact ⟨[c], path, rfl, ⟨c, hc, rfl⟩, hcov⟩
          · rintro ⟨part, rest, heq, ⟨d, hd, rfl⟩, hcov⟩
            obtain ⟨rfl, rfl⟩ := List.cons.inj heq
            exact ⟨hd, hcov⟩
  | choice spellings =>
      simp only [covers, List.any_eq_true, Bool.and_eq_true, List.isPrefixOf_iff_prefix,
        Piece.Takes]
      constructor
      · rintro ⟨spelling, hmem, ⟨rest, rfl⟩, hcov⟩
        exact ⟨spelling, rest, rfl, hmem, by simpa using hcov⟩
      · rintro ⟨spelling, rest, rfl, hmem, hcov⟩
        exact ⟨spelling, hmem, List.prefix_append _ _, by simpa using hcov⟩
  | literal c =>
      cases path with
      | nil => simp [covers, Piece.Takes]
      | cons d path =>
          simp only [covers, Bool.and_eq_true, beq_iff_eq, Piece.Takes]
          constructor
          · rintro ⟨rfl, hcov⟩
            exact ⟨[c], path, rfl, rfl, hcov⟩
          · rintro ⟨part, rest, heq, rfl, hcov⟩
            obtain ⟨rfl, rfl⟩ := List.cons.inj heq
            exact ⟨rfl, hcov⟩

/-- The matcher finds a cut exactly when there is one. -/
theorem covers_iff_cut {pieces : List Piece} {path : Text} (h : '\n' ∉ path) :
    covers pieces path = true ↔ Cut pieces path := by
  induction pieces generalizing path with
  | nil =>
      have hne : path ≠ ['\n'] := fun heq => h (heq ▸ List.mem_singleton_self _)
      simp [covers, cut_nil, hne]
  | cons p pieces ih =>
      rw [covers_cons h, cut_cons]
      refine exists_congr fun part => exists_congr fun rest => and_congr_right fun heq => ?_
      rw [ih fun hmem => h (heq ▸ List.mem_append_right _ hmem)]

/-- A glob matches a path without newlines exactly when the path can be cut into consecutive parts,
one for each token of the glob, that the tokens take. -/
theorem covers_read_iff_cut {glob path : Text} (h : '\n' ∉ path) :
    covers (read glob) path = true ↔ ∃ pieces, Reads glob pieces ∧ Cut pieces path := by
  rw [covers_iff_cut h]
  constructor
  · intro hcut
    exact ⟨read glob, reads_iff.2 rfl, hcut⟩
  · rintro ⟨pieces, hreads, hcut⟩
    rwa [← reads_iff.1 hreads]

/-- A glob with folders, a run inside one folder and a choice, on a path three folders deep. -/
theorem cut_of_script_below_src :
    '\n' ∉ "src/a/b/c.ts".toList ∧
      ∃ pieces, Reads "**/*.\x7bjs,ts\x7d".toList pieces ∧ Cut pieces "src/a/b/c.ts".toList :=
  ⟨by decide, (covers_read_iff_cut (by decide)).1 (by decide)⟩

/-! ## Ends of paths -/

theorem suffix_of_mem_restsAfterSlash {path rest : Text} (h : rest ∈ restsAfterSlash path) :
    rest <:+ path := by
  induction path with
  | nil => simp [restsAfterSlash] at h
  | cons c path ih =>
      simp only [restsAfterSlash] at h
      split at h
      · simp at h
      · split at h
        · rcases List.mem_cons.1 h with rfl | h
          · exact List.suffix_cons c rest
          · exact (ih h).trans (List.suffix_cons c path)
        · exact (ih h).trans (List.suffix_cons c path)

/-- The last of some pieces take the end of a path that all of them take. -/
theorem exists_suffix_of_covers_append {before after : List Piece} {path : Text}
    (h : covers (before ++ after) path = true) :
    ∃ rest, rest <:+ path ∧ covers after rest = true := by
  induction before generalizing path with
  | nil => exact ⟨path, List.suffix_refl _, h⟩
  | cons p before ih =>
      obtain ⟨rest, hrest, hcov⟩ :
          ∃ rest, rest <:+ path ∧ covers (before ++ after) rest = true := by
        cases p with
        | folders =>
            simp only [List.cons_append, covers, Bool.or_eq_true, List.any_eq_true] at h
            rcases h with h | ⟨rest, hmem, h⟩
            · exact ⟨path, List.suffix_refl _, h⟩
            · exact ⟨rest, suffix_of_mem_restsAfterSlash hmem, h⟩
        | anything | inside =>
            simp only [List.cons_append, covers, List.any_eq_true, mem_rests] at h
            obtain ⟨rest, ⟨part, rfl, -⟩, h⟩ := h
            exact ⟨rest, List.suffix_append part rest, h⟩
        | one | literal =>
            cases path with
            | nil => simp [covers] at h
            | cons c path =>
                simp only [List.cons_append, covers, Bool.and_eq_true] at h
                exact ⟨path, List.suffix_cons c path, h.2⟩
        | choice spellings =>
            simp only [List.cons_append, covers, List.any_eq_true, Bool.and_eq_true] at h
            obtain ⟨spelling, -, -, h⟩ := h
            exact ⟨_, List.drop_suffix _ _, h⟩
      obtain ⟨rest', hrest', hcov'⟩ := ih hcov
      exact ⟨rest', hrest'.trans hrest, hcov'⟩

/-- A path that ends in a choice of spellings ends in one of them, or in one and a newline. -/
theorem exists_spelling_of_covers_concat {before : List Piece} {spellings : List Text} {path : Text}
    (h : covers (before ++ [.choice spellings]) path = true) :
    ∃ spelling ∈ spellings, spelling <:+ path ∨ spelling ++ ['\n'] <:+ path := by
  obtain ⟨rest, hrest, hcov⟩ := exists_suffix_of_covers_append h
  simp only [covers, List.any_eq_true, Bool.and_eq_true, List.isPrefixOf_iff_prefix,
    Bool.or_eq_true, List.isEmpty_iff, beq_iff_eq] at hcov
  obtain ⟨spelling, hmem, ⟨tail, rfl⟩, htail⟩ := hcov
  rw [List.drop_left] at htail
  refine ⟨spelling, hmem, ?_⟩
  rcases htail with rfl | rfl
  · exact .inl (by simpa using hrest)
  · exact .inr hrest

end PathGlob
end CodeSurvey
