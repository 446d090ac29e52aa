import CodeSurvey.Proofs.Regex.Replace
import CodeSurvey.Proofs.Text.Runs

/-!
# Searching for whole words

A search for one of some words between two edges of words tries the words in their order, and goes
on behind each match. None of that shows in the number of its matches: a match is always a whole run
of word characters, whichever words begin or end alike, so that there are as many matches as there
are such runs among the words.

## Main definitions

* `Regex.wholeWord ws`: one of the words `ws`, between two edges of words.
* `Regex.tally more`: the number of matches that a search finds, by their extent.
-/

namespace CodeSurvey
namespace Regex

/-! ## Spellings -/

/-- The place behind some characters of the text that is left. -/
def Spot.skip (s : Spot) (w : Text) : Spot :=
  ⟨s.offset + w.length, w.getLast?.or s.previous, s.rest.drop w.length, s.captures⟩

/-- Characters are skipped one after the other. -/
theorem Spot.skip_cons (offset : Nat) (previous : Option Char) (c : Char) (rest : Text)
    (captures : List Capture) (w : Text) :
    skip ⟨offset, previous, c :: rest, captures⟩ (c :: w) =
      skip ⟨offset + 1, some c, rest, captures⟩ w := by
  simp only [skip, getLast?_cons_or, List.length_cons, List.drop_succ_cons, Nat.add_right_comm,
    Nat.add_assoc]

section Follow

variable {α : Type}

/-- A spelling leads behind itself, if the text goes on with it. -/
theorem follow_literal (spelling : String) (s : Spot) (next : Spot → Option α) :
    follow (literal spelling) s next =
      if spelling.toList <+: s.rest then next (s.skip spelling.toList) else none := by
  rw [literal]
  induction spelling.toList generalizing s with
  | nil => simp [follow, Spot.skip]
  | cons c w ih =>
      obtain ⟨offset, previous, rest, captures⟩ := s
      cases rest with
      | nil => rfl
      | cons d rest =>
          show (if d == c then follow _ _ next else none) = _
          by_cases hd : d = c
          · subst hd
            simp [ih, Spot.skip_cons]
          · simp [hd, Ne.symm hd]

/-- Several spellings are tried in their order. -/
theorem follow_oneOf (spellings : List String) (s : Spot) (next : Spot → Option α) :
    follow (oneOf spellings) s next = spellings.findSome? fun w =>
      if w.toList <+: s.rest then next (s.skip w.toList) else none := by
  fun_induction oneOf spellings with
  | case1 => cases h : s.rest <;> simp [follow, h]
  | case2 spelling => rw [follow_literal, List.findSome?_singleton]
  | case3 spelling rest _ ih =>
      show follow (.choice (literal spelling) (oneOf rest)) s next = _
      rw [follow, follow_literal, ih, List.findSome?_cons]
      rfl

end Follow

/-! ## Words -/

/-- One of some words with the edge of a word before it and after it. -/
def wholeWord (ws : List Text) : Regex := wordEdge ++ oneOf (ws.map String.ofList) ++ wordEdge

/-- The extent of a whole word: the run of word characters that begins with the first one. -/
def wordExtent (ws : List Text) : Extent := fun before c t =>
  if !before && ws.contains ((c :: t).takeWhile Text.isWord) then
    some (t.takeWhile Text.isWord).length
  else none

/-- Words of word characters: they can be told from the runs that they stand in. -/
def AreWords (ws : List Text) : Prop := ∀ w ∈ ws, w ≠ [] ∧ w.all Text.isWord = true

instance (ws : List Text) : Decidable (AreWords ws) := inferInstanceAs (Decidable (∀ w ∈ ws, _))

section Words

variable {ws : List Text} {w : Text} {s : Spot}

theorem AreWords.nil_not_mem (hws : AreWords ws) : [] ∉ ws := fun h => (hws [] h).1 rfl

/-- Behind some word characters is the edge of a word exactly if they are the whole run. -/
theorem atWordEdge_skip_iff (hne : w ≠ []) (hw : w.all Text.isWord = true) :
    (w <+: s.rest ∧ (s.skip w).atWordEdge = true) ↔ s.rest.takeWhile Text.isWord = w := by
  have hlast : (w.getLast?.or s.previous).any Text.isWord = true := by
    rw [List.getLast?_eq_some_getLast hne]
    exact List.all_eq_true.1 hw _ (List.getLast_mem hne)
  have hedge : (s.skip w).atWordEdge = !(s.rest.drop w.length).head?.any Text.isWord := by
    rw [Spot.atWordEdge, Spot.skip, hlast]
    cases (s.rest.drop w.length).head?.any Text.isWord <;> rfl
  rw [hedge, Bool.not_eq_true']
  constructor
  · rintro ⟨⟨rest, hrest⟩, hafter⟩
    rw [← hrest, List.drop_left] at hafter
    rw [← hrest, List.takeWhile_append_of_pos (List.all_eq_true.1 hw)]
    cases rest with
    | nil => simp
    | cons c rest => simp [show Text.isWord c = false from hafter]
  · rintro rfl
    refine ⟨List.takeWhile_prefix _, ?_⟩
    have hcut := List.takeWhile_append_dropWhile (p := Text.isWord) (l := s.rest)
    have hdrop : s.rest.drop (s.rest.takeWhile Text.isWord).length = s.rest.dropWhile Text.isWord :=
      (congrArg _ hcut.symm).trans List.drop_left
    have hstop := List.head?_dropWhile_not Text.isWord s.rest
    rw [hdrop]
    cases h : (s.rest.dropWhile Text.isWord).head? with
    | none => rfl
    | some c => simpa [h] using hstop

/-- Of several words at most one is the whole run, so that their order does not matter. -/
theorem findSome?_wholeWord {α : Type} (hws : AreWords ws) (s : Spot) (next : Spot → Option α) :
    (ws.findSome? fun w => if w <+: s.rest then
      (if (s.skip w).atWordEdge then next (s.skip w) else none) else none) =
      if s.rest.takeWhile Text.isWord ∈ ws then next (s.skip (s.rest.takeWhile Text.isWord))
      else none := by
  induction ws with
  | nil => rfl
  | cons w ws ih =>
      obtain ⟨hne, hword⟩ := hws w List.mem_cons_self
      have hrun := atWordEdge_skip_iff (s := s) hne hword
      rw [List.findSome?_cons, ih fun w hw => hws w (List.mem_cons_of_mem _ hw), ← ite_and]
      by_cases hw : s.rest.takeWhile Text.isWord = w
      · rw [if_pos (hrun.2 hw), hw, if_pos List.mem_cons_self]
        cases hnext : next (s.skip w) <;> simp
      · rw [if_neg (mt hrun.1 hw)]
        simp [hw]

/-- Before a word character, the edge of a word is where no word character comes before. -/
theorem atWordEdge_of_takeWhile_ne_nil (h : s.rest.takeWhile Text.isWord ≠ []) :
    s.atWordEdge = !s.previous.any Text.isWord := by
  have hhead : s.rest.head?.any Text.isWord = true := by
    cases hrest : s.rest with
    | nil => simp [hrest] at h
    | cons c rest =>
        by_contra hc
        simp_all
  rw [Spot.atWordEdge, hhead]
  cases s.previous.any Text.isWord <;> rfl

/-- Whole words lead behind a whole run, if it is one of them. -/
theorem follow_wholeWord {α : Type} (hws : AreWords ws) (s : Spot) (next : Spot → Option α) :
    follow (wholeWord ws) s next =
      if s.previous.any Text.isWord = false ∧ s.rest.takeWhile Text.isWord ∈ ws then
        next (s.skip (s.rest.takeWhile Text.isWord))
      else none := by
  show (if s.atWordEdge then follow (oneOf (ws.map String.ofList)) s fun e =>
    if e.atWordEdge then next e else none else none) = _
  rw [follow_oneOf, List.findSome?_map]
  simp only [Function.comp_def, String.toList_ofList]
  rw [findSome?_wholeWord hws]
  by_cases hmem : s.rest.takeWhile Text.isWord ∈ ws
  · rw [atWordEdge_of_takeWhile_ne_nil fun h => hws.nil_not_mem (h ▸ hmem)]
    simp [hmem]
  · simp [hmem]

theorem takes_wholeWord (hws : AreWords ws) : (wholeWord ws).Takes (wordExtent ws) := by
  constructor
  · intro offset previous
    simp [matchAt, follow_wholeWord hws, hws.nil_not_mem]
  · intro offset previous c t
    rw [matchAt, follow_wholeWord hws]
    simp only [wordExtent, Bool.and_eq_true, Bool.not_eq_true', List.contains_iff_mem]
    split
    · rename_i h
      have hc : Text.isWord c = true := by
        by_contra hc
        exact hws.nil_not_mem (by simpa [hc] using h.2)
      simp [Spot.skip, hc, Nat.add_assoc, Nat.add_comm 1]
    · rfl

end Words

/-! ## The number of matches -/

/-- The first of all matches is the one that a search for one match finds. -/
theorem findFrom_eq_head? (r : Regex) (offset : Nat) (previous : Option Char) (t : Text) :
    findFrom r offset previous t = (findAllFrom r 0 offset previous t).head? := by
  induction t generalizing offset previous with
  | nil =>
      rw [findFrom, findAllFrom, if_pos rfl]
      cases matchAt r offset previous [] <;> rfl
  | cons c t ih =>
      rw [findFrom, findAllFrom]
      split
      · rfl
      · exact ih (offset + 1) (some c)

/-- The number of matches of an extent that a search finds. The next `skip` characters belong to a
match before them. -/
def tally (more : Extent) : (skip : Nat) → (before : Bool) → Text → Nat
  | _, _, [] => 0
  | skip + 1, _, c :: t => tally more skip (Text.isWord c) t
  | 0, before, c :: t =>
    match more before c t with
    | some n => tally more n (Text.isWord c) t + 1
    | none => tally more 0 (Text.isWord c) t

section Tally

variable {r : Regex} {more : Extent} {ws : List Text}

theorem Takes.length_findAllFrom (h : r.Takes more) (skip offset : Nat) (previous : Option Char)
    (t : Text) : (findAllFrom r skip offset previous t).length =
      tally more skip (previous.any Text.isWord) t := by
  induction t generalizing skip offset previous with
  | nil => simp [findAllFrom, tally, h.nil]
  | cons c t ih =>
      cases skip with
      | succ skip => simp only [findAllFrom, tally, ih, Option.any_some]
      | zero =>
          have hcons := h.cons offset previous c t
          simp only [findAllFrom, tally]
          cases hmatch : matchAt r offset previous (c :: t) with
          | none =>
              have hmore : more (previous.any Text.isWord) c t = none := by
                simpa [hmatch, eq_comm] using hcons
              simp only [hmore, ih, Option.any_some]
          | some m =>
              rw [hmatch, Option.map_some, eq_comm, Option.map_eq_some_iff] at hcons
              obtain ⟨n, hn, hstop⟩ := hcons
              have hskip : m.stop - offset - 1 = n := by omega
              simp [hn, hskip, ih]

/-- A search goes over a text once. -/
theorem Takes.length_findAll (h : r.Takes more) (t : Text) :
    (r.findAll t).length = tally more 0 false t :=
  h.length_findAllFrom 0 0 none t

/-- Whole words are counted by the pieces between other characters. Behind a word character the
first piece is the end of a word that has been seen before. -/
theorem tally_wordExtent (hws : [] ∉ ws) (before : Bool) (t : Text) :
    let pieces := Text.splitWhere (fun c => !Text.isWord c) t
    tally (wordExtent ws) 0 before t =
        (if before then pieces.tail else pieces).countP ws.contains ∧
      tally (wordExtent ws) (t.takeWhile Text.isWord).length before t =
        pieces.tail.countP ws.contains := by
  induction t generalizing before with
  | nil => cases before <;> simp [tally, hws]
  | cons c t ih =>
      obtain ⟨hout, hin⟩ := ih (Text.isWord c)
      cases hc : Text.isWord c with
      | false =>
          have hpieces := Text.splitWhere_cons_of_pos (p := fun c => !Text.isWord c) (c := c)
            (by simp [hc]) t
          cases before <;> simp_all [tally, wordExtent]
      | true =>
          have hpieces := Text.splitWhere_cons_of_neg (p := fun c => !Text.isWord c) (c := c)
            (by simp [hc]) t
          rw [Text.headD_splitWhere] at hpieces
          rw [hc] at hout hin
          refine ⟨?_, by simpa [tally, hc, hpieces] using hin⟩
          simp only [tally, wordExtent, hc, hpieces, List.takeWhile_cons_of_pos hc]
          cases before with
          | true => simpa using hout
          | false =>
              -- the run is left out if it is one of the words, and goes by otherwise
              by_cases hmem : c :: t.takeWhile Text.isWord ∈ ws
              · simpa [hmem] using hin
              · simpa [hmem] using hout

/-- A search for whole words has as many matches as the text has words among them. -/
theorem length_findAll_wholeWord (hws : AreWords ws) (t : Text) :
    ((wholeWord ws).findAll t).length = (Text.words t).countP ws.contains := by
  rw [(takes_wholeWord hws).length_findAll, (tally_wordExtent hws.nil_not_mem false t).1,
    Text.words, List.countP_filter]
  refine List.countP_congr fun w _ => ?_
  cases w with
  | nil => simp [hws.nil_not_mem]
  | cons c w => simp

end Tally

end Regex
end CodeSurvey
