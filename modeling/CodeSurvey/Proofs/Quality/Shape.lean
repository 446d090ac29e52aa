import CodeSurvey.Proofs.Regex.Replace
import CodeSurvey.Proofs.Text.Words
import CodeSurvey.Quality.Duplicates
import Mathlib.Logic.Relation

/-!
# What the shape of a block depends on

Blanks, names, numbers and strings are made alike one after the other, each in what the step before
it has left. In whatever surroundings, names may be spelled otherwise, numbers may have other values
and blanks may be laid out otherwise: the shape stays. A name or number is taken whole here, between
characters that belong to no word; next to it may stand a dollar sign, a quote or anything else.

## Main definitions

* `Respelled t t'`: two texts differ in the spelling of one name or number or in some blanks.
* `Shape.SameNumbers x y`: two texts are the same once their numbers are made alike.
-/

namespace CodeSurvey

open Regex

/-! ## Spellings -/

/-- A name of ASCII letters, digits and underscores that begins with no digit. -/
def IsAsciiName (w : Text) : Prop :=
  ∃ c rest, w = c :: rest ∧ (c.isAlpha || c == '_') = true ∧
    ∀ d ∈ rest, (d.isAlphanum || d == '_') = true

/-- A number in ASCII digits. -/
def IsAsciiNumber (w : Text) : Prop := w ≠ [] ∧ ∀ c ∈ w, c.isDigit = true

/-- A text of blanks. -/
def IsBlanks (w : Text) : Prop := ∀ c ∈ w, Text.isBlank c = true

/-- Two texts are the same but for the spelling of a name or number that stands alone, or for some
blanks. Blanks between other characters may not come or go altogether. -/
inductive Respelled : Text → Text → Prop
  | name {before after w w' : Text} (isolated : Text.Isolate before after) (old : IsAsciiName w)
      (new : IsAsciiName w') : Respelled (before ++ w ++ after) (before ++ w' ++ after)
  | number {before after w w' : Text} (isolated : Text.Isolate before after)
      (old : IsAsciiNumber w) (new : IsAsciiNumber w') :
      Respelled (before ++ w ++ after) (before ++ w' ++ after)
  | blanks {before after w w' : Text} (old : IsBlanks w) (old_ne : w ≠ []) (new : IsBlanks w')
      (new_ne : w' ≠ []) : Respelled (before ++ w ++ after) (before ++ w' ++ after)
  | start {t w w' : Text} (old : IsBlanks w) (new : IsBlanks w') : Respelled (w ++ t) (w' ++ t)
  | stop {t w w' : Text} (old : IsBlanks w) (new : IsBlanks w') : Respelled (t ++ w) (t ++ w')

namespace Shape

/-! ## Characters -/

/-- ASCII letters, digits and the underscore. -/
def isAsciiWord (c : Char) : Bool := c.isAlphanum || c == '_'

/-- The characters that begin a name. -/
def isNameStart (c : Char) : Bool := isLetter c || c == '_' || c == '$'

/-- The characters that a name goes on with. -/
def isNamePart (c : Char) : Bool := c.isAlphanum || c == '_' || c == '$'

variable {c : Char}

theorem toNat_lt_of_isAsciiWord (h : isAsciiWord c = true) : 0x30 ≤ c.toNat ∧ c.toNat < 0x80 := by
  simp only [isAsciiWord, Char.isAlphanum, Bool.or_eq_true, Text.isAlpha_iff,
    Text.isDigit_iff, beq_iff_eq] at h
  rcases h with (h | h) | rfl
  · omega
  · omega
  · decide

theorem isWord_of_isAsciiWord (h : isAsciiWord c = true) : Text.isWord c = true := by
  rw [Text.isWord, if_pos (toNat_lt_of_isAsciiWord h).2]
  exact h

theorem isNamePart_of_isAsciiWord (h : isAsciiWord c = true) : isNamePart c = true := by
  rw [isNamePart, Bool.or_eq_true]
  exact .inl h

theorem not_isBlank_of_isAsciiWord (h : isAsciiWord c = true) : Text.isBlank c = false := by
  obtain ⟨hlow, hhigh⟩ := toNat_lt_of_isAsciiWord h
  simp only [Text.isBlank, if_pos hhigh, Bool.or_eq_false_iff, Bool.and_eq_false_iff,
    decide_eq_false_iff_not]
  omega

theorem isAsciiWord_of_isDigit (h : c.isDigit = true) : isAsciiWord c = true := by
  simp [isAsciiWord, Char.isAlphanum, h]

theorem isDecimal_of_isDigit (h : c.isDigit = true) : Text.isDecimal c = true := by
  have hlow := (toNat_lt_of_isAsciiWord (isAsciiWord_of_isDigit h)).2
  simp [Text.isDecimal, Text.decimalValue?, hlow, h]

theorem not_isNameStart_of_isDigit (h : c.isDigit = true) : isNameStart c = false := by
  have hletter : isLetter c = false := by
    rw [isLetter, Bool.eq_false_iff, Ne, Text.isAlpha_iff]
    have := Text.isDigit_iff.1 h
    omega
  simp only [isNameStart, hletter, Bool.false_or, Bool.or_eq_false_iff, beq_eq_false_iff_ne]
  refine ⟨?_, ?_⟩
  · rintro rfl
    exact absurd h (by decide)
  · rintro rfl
    exact absurd h (by decide)

end Shape

theorem IsAsciiName.ne_nil {w : Text} (hw : IsAsciiName w) : w ≠ [] := by
  obtain ⟨c, rest, rfl, -⟩ := hw
  exact List.cons_ne_nil c rest

theorem IsAsciiName.isAsciiWord {w : Text} (hw : IsAsciiName w) :
    ∀ c ∈ w, Shape.isAsciiWord c = true := by
  obtain ⟨c, rest, rfl, hc, hrest⟩ := hw
  intro d hd
  rcases List.mem_cons.1 hd with rfl | hd
  · simp only [Shape.isAsciiWord, Char.isAlphanum, Bool.or_eq_true] at hc ⊢
    exact hc.imp_left .inl
  · exact hrest d hd

theorem IsAsciiNumber.isAsciiWord {w : Text} (hw : IsAsciiNumber w) :
    ∀ c ∈ w, Shape.isAsciiWord c = true :=
  fun c hc => Shape.isAsciiWord_of_isDigit (hw.2 c hc)

namespace Shape

/-! ## The steps -/

/-- The edge of a word must come after a name. -/
def edge (before : Bool) (t : Text) : Option Nat :=
  if before != t.head?.any Text.isWord then some 0 else none

/-- The extent of a name: it begins at the edge of a word and ends at one, the last that there is.
-/
def nameExtent : Extent :=
  extent (fun before c => before != Text.isWord c && isNameStart c) isNamePart edge

/-- A quote must come after the text of a string. -/
def closing (_ : Bool) : Text → Option Nat
  | [] => none
  | c :: _ => if isQuote c then some 1 else none

/-- The extent of a string: it goes up to the next quote. -/
def stringExtent : Extent := extent (fun _ => isQuote) (fun c => !isQuote c) closing

theorem takes_nameExpr : nameExpr.Takes nameExtent := by
  constructor
  · intro offset previous
    show (if _ then none else none : Option Match) = none
    exact ite_self none
  · intro offset previous c t
    show (if Spot.atWordEdge _ then (if isNameStart c then _ else none) else none :
      Option Match).map _ = _
    simp only [nameExtent, extent, Spot.atWordEdge, List.head?_cons, Option.any_some]
    by_cases hedge : (previous.any Text.isWord != Text.isWord c) = true
    · simp only [hedge, Bool.true_and, if_true]
      split
      · refine stop_findSome?_stops (fun e => ?_) (offset + 1) (some c) t
        rw [edge, follow, Spot.atWordEdge]
        split <;> rfl
      · rfl
    · simp [hedge]

theorem takes_stringExpr : stringExpr.Takes stringExtent := by
  constructor
  · exact fun _ _ => rfl
  · intro offset previous c t
    show (if isQuote c then _ else none : Option Match).map _ = _
    simp only [stringExtent, extent]
    split
    · refine stop_findSome?_stops (fun e => ?_) (offset + 1) (some c) t
      rw [follow]
      cases e.rest with
      | nil => rfl
      | cons d rest =>
          simp only [closing]
          split <;> rfl
    · rfl

/-- What is left to do once the blanks are made alike. -/
def finish (t : Text) : Text :=
  Text.trim (substitute stringExtent "STR" 0 false
    (squash Text.isDecimal "NUM" false (substitute nameExtent "VAR" 0 false t)))

theorem shape_eq (t : Text) : shape t = finish (squash Text.isBlank " " false t) := by
  rw [shape, blanks1, replaceAll_many1, takes_nameExpr.replaceAll_eq, numberExpr, replaceAll_many1,
    takes_stringExpr.replaceAll_eq]
  rfl

/-! ## Names and numbers in a context -/

/-- Two texts are the same once their numbers are made alike, whatever comes before. -/
def SameNumbers (x y : Text) : Prop :=
  ∀ inRun, squash Text.isDecimal "NUM" inRun x = squash Text.isDecimal "NUM" inRun y

theorem SameNumbers.append_left {x y : Text} (h : SameNumbers x y) (s : Text) :
    SameNumbers (s ++ x) (s ++ y) :=
  fun inRun => squash_append_congr h inRun s

/-- Numbers count for nothing but that they are there. -/
theorem sameNumbers_of_digits {w w' : Text} (hw : IsAsciiNumber w) (hw' : IsAsciiNumber w')
    (t : Text) : SameNumbers (w ++ t) (w' ++ t) := by
  intro inRun
  rw [squash_run hw.1 (fun c hc => isDecimal_of_isDigit (hw.2 c hc)),
    squash_run hw'.1 (fun c hc => isDecimal_of_isDigit (hw'.2 c hc))]

/-- How far a name goes in two texts that agree but for a middle part, of `l` characters in one and
`l'` in the other, with `k` characters before it: a name ends before that part or after it. -/
inductive SameStop (k l l' : Nat) : Option Nat → Option Nat → Prop
  | none : SameStop k l l' none none
  | before {n : Nat} (le : n ≤ k) : SameStop k l l' (some n) (some n)
  | after (n : Nat) : SameStop k l l' (some (k + l + n)) (some (k + l' + n))

namespace SameStop

variable {k l l' : Nat} {a a' : Option Nat}

/-- Nothing but the place before the two texts is seen. -/
theorem here (before : Bool) (c : Char) (t t' : Text) :
    SameStop k l l' (edge before (c :: t)) (edge before (c :: t')) := by
  show SameStop k l l' (if before != Text.isWord c then some 0 else Option.none)
    (if before != Text.isWord c then some 0 else Option.none)
  split
  · exact .before (Nat.zero_le k)
  · exact .none

/-- One more character comes before; the name may end there if it does not end later. -/
theorem step (h : SameStop k l l' a a') (before : Bool) (c : Char) (t t' : Text) :
    SameStop (k + 1) l l' ((a.map (· + 1)).or (edge before (c :: t)))
      ((a'.map (· + 1)).or (edge before (c :: t'))) := by
  cases h with
  | none => exact here before c t t'
  | before hle => exact .before (Nat.succ_le_succ hle)
  | after n =>
      have hl : k + l + n + 1 = k + 1 + l + n := by omega
      have hl' : k + l' + n + 1 = k + 1 + l' + n := by omega
      simpa [hl, hl'] using SameStop.after n

end SameStop

section Context

variable {w w' after : Text} {n : Nat}

/-- After a word character, a name can end where no word character comes. -/
theorem exists_runThen_after (hafter : ∀ c ∈ after.head?, Text.isWord c = false) :
    ∃ n, runThen isNamePart edge true after = some n := by
  have hedge : edge true after = some 0 := by
    cases after with
    | nil => rfl
    | cons c after => simp [edge, hafter c rfl]
  cases after with
  | nil => exact ⟨0, hedge⟩
  | cons c after =>
      rw [runThen, hedge]
      split
      · cases runThen isNamePart edge (Text.isWord c) after <;> simp
      · exact ⟨0, rfl⟩

/-- A run of a name goes over a word to the last place after it where the name can end. -/
theorem runThen_word (hn : runThen isNamePart edge true after = some n)
    (hw : ∀ c ∈ w, isAsciiWord c = true) :
    runThen isNamePart edge true (w ++ after) = some (w.length + n) := by
  induction w with
  | nil => simpa using hn
  | cons c w ih =>
      have hc := hw c List.mem_cons_self
      rw [List.cons_append, runThen, if_pos (isNamePart_of_isAsciiWord hc),
        isWord_of_isAsciiWord hc, ih fun d hd => hw d (List.mem_cons_of_mem _ hd)]
      simp [Nat.add_right_comm]

/-- So does a name that begins with the word or goes on with it. -/
theorem runThen_word_of_ne_nil (hn : runThen isNamePart edge true after = some n) (hne : w ≠ [])
    (hw : ∀ c ∈ w, isAsciiWord c = true) (before : Bool) :
    runThen isNamePart edge before (w ++ after) = some (w.length + n) := by
  obtain ⟨c, w, rfl⟩ := List.exists_cons_of_ne_nil hne
  have hc := hw c List.mem_cons_self
  have hrest := runThen_word hn fun d hd => hw d (List.mem_cons_of_mem _ hd)
  rw [List.cons_append, runThen, if_pos (isNamePart_of_isAsciiWord hc), isWord_of_isAsciiWord hc,
    hrest]
  simp [Nat.add_right_comm]

/-- A name that goes over a whole word goes over any other word in its place just as far. -/
theorem sameStop_runThen (hn : runThen isNamePart edge true after = some n) (hne : w ≠ [])
    (hw : ∀ c ∈ w, isAsciiWord c = true) (hne' : w' ≠ []) (hw' : ∀ c ∈ w', isAsciiWord c = true)
    (before : Bool) (s : Text) :
    SameStop s.length w.length w'.length (runThen isNamePart edge before (s ++ (w ++ after)))
      (runThen isNamePart edge before (s ++ (w' ++ after))) := by
  induction s generalizing before with
  | nil =>
      simp only [List.nil_append, runThen_word_of_ne_nil hn hne hw,
        runThen_word_of_ne_nil hn hne' hw']
      have hafter : SameStop 0 w.length w'.length _ _ := .after n
      simpa using hafter
  | cons c s ih =>
      simp only [List.cons_append, runThen]
      split
      · exact (ih (Text.isWord c)).step before c _ _
      · exact .here before c _ _

/-- A match that goes over a word leaves what comes after it, and a word character has gone by. -/
theorem substitute_word (hne : w ≠ []) (hw : ∀ c ∈ w, isAsciiWord c = true) (before : Bool)
    (s : Text) (m : Nat) :
    substitute nameExtent "VAR" (s.length + w.length + m) before (s ++ (w ++ after)) =
      substitute nameExtent "VAR" m true after := by
  rw [← List.append_assoc, ← List.length_append, substitute_skip, wordAfter_append,
    wordAfter_of_forall (fun c hc => isWord_of_isAsciiWord (hw c hc)) fun h => absurd h hne]

/-- Whatever becomes of two words that stand in the same place, nothing else changes, but for the
lengths of numbers. -/
theorem sameNumbers_substitute (hn : runThen isNamePart edge true after = some n) (hne : w ≠ [])
    (hw : ∀ c ∈ w, isAsciiWord c = true) (hne' : w' ≠ []) (hw' : ∀ c ∈ w', isAsciiWord c = true)
    (halone : SameNumbers (substitute nameExtent "VAR" 0 false (w ++ after))
      (substitute nameExtent "VAR" 0 false (w' ++ after)))
    {s : Text} {before : Bool} (hs : wordAfter before s = false) {skip : Nat}
    (hskip : skip ≤ s.length) :
    SameNumbers (substitute nameExtent "VAR" skip before (s ++ (w ++ after)))
      (substitute nameExtent "VAR" skip before (s ++ (w' ++ after))) := by
  induction s generalizing before skip with
  | nil =>
      obtain rfl : skip = 0 := Nat.le_zero.1 hskip
      obtain rfl : before = false := hs
      exact halone
  | cons c s ih =>
      rw [wordAfter_cons] at hs
      cases skip with
      | succ skip => exact ih hs (Nat.le_of_succ_le_succ hskip)
      | zero =>
          have hextent : ∀ t, nameExtent before c t =
              if before != Text.isWord c && isNameStart c then
                runThen isNamePart edge (Text.isWord c) t else none := fun _ => rfl
          simp only [List.cons_append, substitute, hextent]
          by_cases hfirst : (before != Text.isWord c && isNameStart c) = true
          · simp only [hfirst, if_true]
            have hstop := sameStop_runThen hn hne hw hne' hw' (Text.isWord c) s
            generalize runThen isNamePart edge (Text.isWord c) (s ++ (w ++ after)) = a at hstop ⊢
            generalize runThen isNamePart edge (Text.isWord c) (s ++ (w' ++ after)) = b at hstop ⊢
            cases hstop with
            | none => exact (ih hs (Nat.zero_le _)).append_left [c]
            | before hle => exact (ih hs hle).append_left _
            | after m =>
                refine SameNumbers.append_left ?_ _
                rw [substitute_word hne hw, substitute_word hne' hw']
                exact fun _ => rfl
          · simp only [hfirst]
            exact (ih hs (Nat.zero_le _)).append_left [c]

end Context

/-- On its own, a name is replaced as far as it goes. -/
theorem substitute_name {w after : Text} {n : Nat}
    (hn : runThen isNamePart edge true after = some n) (hw : IsAsciiName w) :
    substitute nameExtent "VAR" 0 false (w ++ after) =
      "VAR".toList ++ substitute nameExtent "VAR" n true after := by
  have hwords := hw.isAsciiWord
  obtain ⟨c, rest, rfl, hc, hrest⟩ := hw
  have hword := hwords c List.mem_cons_self
  have hstart : isNameStart c = true := by
    rw [isNameStart, Bool.or_eq_true]
    exact .inl hc
  have hextent : nameExtent false c (rest ++ after) = some (rest.length + n) := by
    rw [nameExtent, extent, isWord_of_isAsciiWord hword, hstart, runThen_word hn hrest]
    rfl
  rw [List.cons_append, substitute, hextent, isWord_of_isAsciiWord hword]
  simp only
  rw [substitute_skip,
    wordAfter_of_forall (fun d hd => isWord_of_isAsciiWord (hrest d hd)) fun _ => rfl]

/-- A number begins no name, so it stays. -/
theorem substitute_number {w after : Text} (hw : IsAsciiNumber w) :
    substitute nameExtent "VAR" 0 false (w ++ after) =
      w ++ substitute nameExtent "VAR" 0 true after := by
  have hnone : ∀ c ∈ w, ∀ before t, nameExtent before c t = none := by
    intro c hc before t
    rw [nameExtent, extent, not_isNameStart_of_isDigit (hw.2 c hc), Bool.and_false]
    rfl
  rw [substitute_of_forall_none hnone,
    wordAfter_of_forall (fun c hc => isWord_of_isAsciiWord (hw.isAsciiWord c hc))
      fun h => absurd h hw.1]

/-- Names are alike wherever they stand alone. -/
theorem sameNumbers_of_names {w w' after : Text} {n : Nat}
    (hn : runThen isNamePart edge true after = some n) (hw : IsAsciiName w) (hw' : IsAsciiName w') :
    SameNumbers (substitute nameExtent "VAR" 0 false (w ++ after))
      (substitute nameExtent "VAR" 0 false (w' ++ after)) := by
  rw [substitute_name hn hw, substitute_name hn hw']
  exact fun _ => rfl

/-- So are numbers. -/
theorem sameNumbers_of_numbers {w w' after : Text} (hw : IsAsciiNumber w) (hw' : IsAsciiNumber w') :
    SameNumbers (substitute nameExtent "VAR" 0 false (w ++ after))
      (substitute nameExtent "VAR" 0 false (w' ++ after)) := by
  rw [substitute_number hw, substitute_number hw']
  exact sameNumbers_of_digits hw hw' _

/-! ## Blanks in a context -/

/-- Making blanks alike puts no word character where there was none. -/
theorem wordAfter_squash {s : Text} {inRun before output : Bool}
    (houtput : output = true → before = true) (hrun : inRun = true → output = false)
    (h : wordAfter before s = false) :
    wordAfter output (squash Text.isBlank " " inRun s) = false := by
  induction s generalizing inRun before output with
  | nil =>
      cases output with
      | false => rfl
      | true => exact (houtput rfl).symm.trans h
  | cons c s ih =>
      rw [wordAfter_cons] at h
      rw [squash]
      split
      · cases inRun with
        | false =>
            have hspace : Text.isWord ' ' = false := by decide
            show wordAfter (Text.isWord ' ') _ = false
            rw [hspace]
            exact ih (absurd · Bool.false_ne_true) (fun _ => rfl) h
        | true =>
            obtain rfl := hrun rfl
            exact ih (absurd · Bool.false_ne_true) (fun _ => rfl) h
      · exact ih id (absurd · Bool.false_ne_true) h

theorem wordAfter_of_getLast? {s : Text} (h : ∀ c ∈ s.getLast?, Text.isWord c = false) :
    wordAfter false s = false := by
  rcases List.eq_nil_or_concat s with rfl | ⟨s, c, rfl⟩
  · rfl
  · rw [List.concat_eq_append, wordAfter_append]
    exact h c (by simp)

theorem head?_squash {s : Text} (h : ∀ c ∈ s.head?, Text.isWord c = false) :
    ∀ c ∈ (squash Text.isBlank " " false s).head?, Text.isWord c = false := by
  cases s with
  | nil => nofun
  | cons d s =>
      intro c hc
      rw [squash] at hc
      split at hc
      · obtain rfl : ' ' = c := by simpa using hc
        decide
      · exact h c (by simpa using hc)

/-- Words that stand in the same place give one shape if they do so on their own. -/
theorem shape_eq_of_isolated {before after w w' : Text} (h : Text.Isolate before after)
    (hne : w ≠ []) (hw : ∀ c ∈ w, isAsciiWord c = true) (hne' : w' ≠ [])
    (hw' : ∀ c ∈ w', isAsciiWord c = true)
    (halone : ∀ after n, runThen isNamePart edge true after = some n →
      SameNumbers (substitute nameExtent "VAR" 0 false (w ++ after))
        (substitute nameExtent "VAR" 0 false (w' ++ after))) :
    shape (before ++ w ++ after) = shape (before ++ w' ++ after) := by
  have hblank : ∀ {w : Text}, (∀ c ∈ w, isAsciiWord c = true) → ∀ c ∈ w, Text.isBlank c = false :=
    fun hw c hc => not_isBlank_of_isAsciiWord (hw c hc)
  obtain ⟨n, hn⟩ := exists_runThen_after (head?_squash h.after)
  have hbefore : wordAfter false (squash Text.isBlank " " false before) = false :=
    wordAfter_squash (absurd · Bool.false_ne_true) (absurd · Bool.false_ne_true)
      (wordAfter_of_getLast? h.before)
  have hsame := sameNumbers_substitute hn hne hw hne' hw' (halone _ n hn) hbefore (Nat.zero_le _)
  rw [shape_eq, shape_eq, squash_append_of_not hne (hblank hw),
    squash_append_of_not hne' (hblank hw'), finish, finish, List.append_assoc, List.append_assoc,
    hsame false]

/-! ## Blanks at the ends -/

theorem not_isWord_space : Text.isWord ' ' = false := by decide

theorem trim_cons_space (t : Text) : Text.trim (' ' :: t) = Text.trim t := by
  have hspace : Text.isBlank ' ' = true := by decide
  rw [Text.trim, Text.trimStart, List.dropWhile_cons_of_pos hspace]
  rfl

theorem trim_concat_space (t : Text) : Text.trim (t ++ [' ']) = Text.trim t := by
  have hspace : Text.isBlank ' ' = true := by decide
  simp only [Text.trim, Text.trimStart, List.dropWhile_append]
  split
  · rename_i hempty
    rw [List.isEmpty_iff.1 hempty, List.dropWhile_cons_of_pos hspace]
    rfl
  · simp [Text.trimEnd, hspace]

/-- A space begins neither a name nor a string. -/
theorem extents_space (before : Bool) (t : Text) :
    nameExtent before ' ' t = none ∧ stringExtent before ' ' t = none := by
  simp [nameExtent, stringExtent, extent, isNameStart, isLetter, isQuote]

theorem finish_cons_space (t : Text) : finish (' ' :: t) = finish t := by
  have hdecimal : Text.isDecimal ' ' ≠ true := by decide
  have hnames : substitute nameExtent "VAR" 0 false (' ' :: t) =
      ' ' :: substitute nameExtent "VAR" 0 false t := by
    simp only [substitute, (extents_space _ _).1, not_isWord_space]
  have hstrings (x : Text) : substitute stringExtent "STR" 0 false (' ' :: x) =
      ' ' :: substitute stringExtent "STR" 0 false x := by
    simp only [substitute, (extents_space _ _).2, not_isWord_space]
  rw [finish, hnames, squash, if_neg hdecimal, hstrings, trim_cons_space, finish]

theorem finish_concat_space (t : Text) : finish (t ++ [' ']) = finish t := by
  have hnames : substitute nameExtent "VAR" 0 false (t ++ [' ']) =
      substitute nameExtent "VAR" 0 false t ++ [' '] := by
    refine substitute_extent_concat (fun before => ?_) (fun before => ?_) (fun _ _ _ => rfl)
      (fun before t n h => ?_) false t
    · simp [isNameStart, isLetter]
    · simp [runThen, isNamePart, edge, not_isWord_space]
    · rw [edge, Option.ite_none_right_eq_some] at h
      exact Option.some.inj h.2 ▸ Nat.zero_le _
  have hstrings (x : Text) : substitute stringExtent "STR" 0 false (x ++ [' ']) =
      substitute stringExtent "STR" 0 false x ++ [' '] := by
    refine substitute_extent_concat (fun before => ?_) (fun before => ?_) (fun _ _ _ => rfl)
      (fun before t n h => ?_) false x
    · simp [isQuote]
    · simp [runThen, closing, isQuote]
    · cases t with
      | nil => simp [closing] at h
      | cons c t =>
          rw [closing, Option.ite_none_right_eq_some] at h
          exact Option.some.inj h.2 ▸ Nat.succ_le_succ (Nat.zero_le _)
  have hnumbers (x : Text) : squash Text.isDecimal "NUM" false (x ++ [' ']) =
      squash Text.isDecimal "NUM" false x ++ [' '] := by
    have hspace : ∀ c ∈ [' '], Text.isDecimal c = false :=
      List.forall_mem_singleton.2 (by decide)
    have happend : squash Text.isDecimal "NUM" false (x ++ [' '] ++ []) = _ :=
      squash_append_of_not (List.cons_ne_nil _ _) hspace false x []
    rwa [List.append_nil, squash, List.append_nil] at happend
  rw [finish, hnames, hnumbers, hstrings, trim_concat_space, finish]

/-- Blanks at the start of a block leave a space there or nothing. -/
theorem shape_append_left {w : Text} (hw : IsBlanks w) (t : Text) : shape (w ++ t) = shape t := by
  have hfinish : ∀ x, finish (" ".toList ++ x) = finish x := finish_cons_space
  have hplain : finish (squash Text.isBlank " " false t) =
      finish (squash Text.isBlank " " true t) := by
    rcases squash_true_eq t with h | h
    · rw [h]
    · rw [h, hfinish]
  rw [shape_eq, shape_eq, hplain]
  by_cases hne : w = []
  · rw [hne, List.nil_append, hplain]
  · rw [squash_run hne hw, if_neg Bool.false_ne_true, hfinish]

/-- Blanks at the end leave a space there, unless one is there already. -/
theorem shape_append_right {w : Text} (hw : IsBlanks w) (t : Text) : shape (t ++ w) = shape t := by
  rw [shape_eq, shape_eq]
  rcases squash_concat_run hw false t with h | h
  · rw [h]
  · rw [h]
    exact finish_concat_space _

end Shape

theorem Respelled.shape_eq {t t' : Text} (h : Respelled t t') : shape t = shape t' := by
  cases h with
  | name isolated old new =>
      exact Shape.shape_eq_of_isolated isolated old.ne_nil old.isAsciiWord new.ne_nil
        new.isAsciiWord fun _ _ hn => Shape.sameNumbers_of_names hn old new
  | number isolated old new =>
      exact Shape.shape_eq_of_isolated isolated old.1 old.isAsciiWord new.1 new.isAsciiWord
        fun _ _ _ => Shape.sameNumbers_of_numbers old new
  | @blanks before after w w' old old_ne new new_ne =>
      have hsame (inRun : Bool) : squash Text.isBlank " " inRun (w ++ after) =
          squash Text.isBlank " " inRun (w' ++ after) := by
        rw [squash_run old_ne old, squash_run new_ne new]
      rw [Shape.shape_eq, Shape.shape_eq, List.append_assoc, List.append_assoc,
        squash_append_congr hsame]
  | start old new => rw [Shape.shape_append_left old, Shape.shape_append_left new]
  | stop old new => rw [Shape.shape_append_right old, Shape.shape_append_right new]

/-- Spelling names and numbers otherwise and laying blanks out otherwise, one after the other in any
order, does not change the shape of a block. -/
theorem shape_eq_of_respelled {t t' : Text} (h : Relation.ReflTransGen Respelled t t') :
    shape t = shape t' := by
  induction h with
  | refl => rfl
  | tail _ hstep ih => exact ih.trans hstep.shape_eq

/-- The variable, the number and the blanks of an assignment may be others. -/
theorem shape_assignment :
    Relation.ReflTransGen Respelled "total = 42;".toList "  _sum2 \t= 7;".toList ∧
      shape "total = 42;" = shape "  _sum2 \t= 7;" := by
  have hblank {w : Text} (h : w.all Text.isBlank = true) : IsBlanks w := List.all_eq_true.1 h
  have hname : Respelled "total = 42;".toList "_sum2 = 42;".toList :=
    @Respelled.name [] " = 42;".toList "total".toList "_sum2".toList
      ⟨nofun, by rintro _ ⟨⟩; decide⟩
      ⟨'t', "otal".toList, rfl, by decide, List.all_eq_true.1 (by decide)⟩
      ⟨'_', "sum2".toList, rfl, by decide, List.all_eq_true.1 (by decide)⟩
  have hnumber : Respelled "_sum2 = 42;".toList "_sum2 = 7;".toList :=
    @Respelled.number "_sum2 = ".toList ";".toList "42".toList "7".toList
      ⟨by rintro _ ⟨⟩; decide, by rintro _ ⟨⟩; decide⟩
      ⟨by decide, List.all_eq_true.1 (by decide)⟩ ⟨by decide, List.all_eq_true.1 (by decide)⟩
  have hblanks : Respelled "_sum2 = 7;".toList "_sum2 \t= 7;".toList :=
    @Respelled.blanks "_sum2".toList "= 7;".toList " ".toList " \t".toList
      (hblank (by decide)) (by decide) (hblank (by decide)) (by decide)
  have hstart : Respelled "_sum2 \t= 7;".toList "  _sum2 \t= 7;".toList :=
    @Respelled.start "_sum2 \t= 7;".toList [] "  ".toList nofun (hblank (by decide))
  have hchain := (((Relation.ReflTransGen.single hname).tail hnumber).tail hblanks).tail hstart
  exact ⟨hchain, shape_eq_of_respelled hchain⟩

end CodeSurvey
