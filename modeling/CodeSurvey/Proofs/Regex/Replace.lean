import CodeSurvey.Regex.Match

/-!
# Replacing matches

Offsets and groups play no part in replacing: all that counts of a match is how many characters it
takes. If matches take at least one, replacing is a single pass over the text that knows how many
characters are still to be left out and whether a word character has just gone by. For a run of a
class, as long as it can be, the pass need not even look ahead.

## Main definitions

* `Regex.runThen p extra`: how many characters a run of a class takes with what must follow it.
* `Regex.Takes r more`: `more` says how many characters a match of `r` takes after its first.
* `Regex.substitute more new`: the pass that replaces matches of an extent.
* `Regex.squash p new`: the pass that replaces runs of a class.
-/

namespace CodeSurvey
namespace Regex

/-- The last character that has gone by, behind a first one. -/
theorem getLast?_cons_or (c : Char) (w : Text) (previous : Option Char) :
    (c :: w).getLast?.or previous = w.getLast?.or (some c) := by
  cases h : w.getLast? <;> simp [List.getLast?_cons, h]

/-- Whether a word character comes last, where it is known for the text before. -/
def wordAfter (before : Bool) (t : Text) : Bool := t.foldl (fun _ c => Text.isWord c) before

@[simp] theorem wordAfter_nil (before : Bool) : wordAfter before [] = before := rfl

@[simp] theorem wordAfter_cons (before : Bool) (c : Char) (t : Text) :
    wordAfter before (c :: t) = wordAfter (Text.isWord c) t := rfl

theorem wordAfter_append (before : Bool) (s t : Text) :
    wordAfter before (s ++ t) = wordAfter (wordAfter before s) t := List.foldl_append

theorem wordAfter_of_forall {w : Text} (hw : ∀ c ∈ w, Text.isWord c = true) {before : Bool}
    (h : w = [] → before = true) : wordAfter before w = true := by
  induction w generalizing before with
  | nil => exact h rfl
  | cons c w ih =>
      rw [wordAfter_cons, hw c List.mem_cons_self]
      exact ih (fun d hd => hw d (List.mem_cons_of_mem _ hd)) fun _ => rfl

/-! ## Extents -/

/-- How many characters a match takes after its first one. It is told by whether a word character
comes before, by the first character and by the text after that. -/
abbrev Extent := Bool → Char → Text → Option Nat

/-- How many characters the longest run of a class takes, together with something that must come
after it. Where that does not come, shorter runs are tried. -/
def runThen (p : Char → Bool) (extra : Bool → Text → Option Nat) : Bool → Text → Option Nat
  | before, [] => extra before []
  | before, c :: t =>
    if p c then ((runThen p extra (Text.isWord c) t).map (· + 1)).or (extra before (c :: t))
    else extra before (c :: t)

section RunThen

variable {p : Char → Bool} {extra : Bool → Text → Option Nat}

/-- With nothing to come after it, the longest run is taken. -/
theorem runThen_zero (before : Bool) (t : Text) :
    runThen p (fun _ _ => some 0) before t = some (t.takeWhile p).length := by
  induction t generalizing before with
  | nil => rfl
  | cons c t ih =>
      by_cases hc : p c = true
      · simp [runThen, hc, ih]
      · simp [runThen, hc]

theorem runThen_le_length (hextra : ∀ before t n, extra before t = some n → n ≤ t.length)
    {before : Bool} {t : Text} {n : Nat} (h : runThen p extra before t = some n) :
    n ≤ t.length := by
  induction t generalizing before n with
  | nil => exact hextra before [] n h
  | cons c t ih =>
      rw [runThen] at h
      split at h
      · rcases Option.or_eq_some_iff.1 h with h | ⟨-, h⟩
        · obtain ⟨m, hm, rfl⟩ := Option.map_eq_some_iff.1 h
          exact Nat.succ_le_succ (ih hm)
        · exact hextra before _ n h
      · exact hextra before _ n h

/-- A character at the end of the text makes no difference if it makes none at the end of a run. -/
theorem runThen_concat {d : Char} (hnil : ∀ before, runThen p extra before [d] = extra before [])
    (hcons : ∀ before c t, extra before (c :: (t ++ [d])) = extra before (c :: t)) (before : Bool)
    (t : Text) : runThen p extra before (t ++ [d]) = runThen p extra before t := by
  induction t generalizing before with
  | nil => exact hnil before
  | cons c t ih => simp only [List.cons_append, runThen, ih, hcons]

end RunThen

/-! ## Matches by their extent -/

/-- Matches take at least one character, and `more` says how many they take after it. -/
structure Takes (r : Regex) (more : Extent) : Prop where
  nil : ∀ offset previous, matchAt r offset previous [] = none
  cons : ∀ offset previous c t, (matchAt r offset previous (c :: t)).map Match.stop =
    (more (previous.any Text.isWord) c t).map (offset + 1 + ·)

/-- The places that a run can end at are those after its first character and the one before it. -/
theorem stops_eq_append (p : Char → Bool) (captures : List Capture) (nearer : List Spot)
    (offset : Nat) (previous : Option Char) (t : Text) :
    Spot.stops p captures nearer offset previous t =
      Spot.stops p captures [] offset previous t ++ nearer := by
  induction t generalizing nearer offset previous with
  | nil => rfl
  | cons c t ih =>
      simp only [Spot.stops]
      split
      · rw [ih, ih [_], List.append_assoc]
        rfl
      · rfl

/-- What is found after a run stops where `runThen` says, if what follows the run does. -/
theorem stop_findSome?_stops {p : Char → Bool} {extra : Bool → Text → Option Nat}
    {captures : List Capture} {next : Spot → Option Match}
    (hnext : ∀ e, (next e).map Match.stop =
      (extra (e.previous.any Text.isWord) e.rest).map (e.offset + ·))
    (offset : Nat) (previous : Option Char) (t : Text) :
    ((Spot.stops p captures [] offset previous t).findSome? next).map Match.stop =
      (runThen p extra (previous.any Text.isWord) t).map (offset + ·) := by
  induction t generalizing offset previous with
  | nil => simpa [Spot.stops, runThen] using hnext ⟨offset, previous, [], captures⟩
  | cons c t ih =>
      have hhere := hnext ⟨offset, previous, c :: t, captures⟩
      simp only [Spot.stops, runThen]
      split
      · have hafter := ih (offset + 1) (some c)
        rw [stops_eq_append, List.findSome?_append, Option.map_or, hafter, List.findSome?_singleton,
          hhere, Option.map_or, Option.map_map]
        congr 2
        funext n
        simp only [Function.comp_apply]
        omega
      · simpa using hhere

/-- The extent of a first character with a run of a class and something after it. -/
def extent (first : Bool → Char → Bool) (p : Char → Bool) (extra : Bool → Text → Option Nat) :
    Extent :=
  fun before c t => if first before c then runThen p extra (Text.isWord c) t else none

theorem takes_many1 (p : Char → Bool) :
    (many1 p).Takes (extent (fun _ => p) p fun _ _ => some 0) := by
  refine ⟨fun _ _ => rfl, fun offset previous c t => ?_⟩
  show (if p c then _ else none : Option Match).map _ = _
  unfold extent
  split
  · exact stop_findSome?_stops (fun e => rfl) (offset + 1) (some c) t
  · rfl

/-! ## One pass -/

/-- The text with something new in place of every match of an extent. The next `skip` characters
belong to a match and are left out. -/
def substitute (more : Extent) (new : Text) : (skip : Nat) → (before : Bool) → Text → Text
  | _, _, [] => []
  | skip + 1, _, c :: t => substitute more new skip (Text.isWord c) t
  | 0, before, c :: t =>
    match more before c t with
    | some n => new ++ substitute more new n (Text.isWord c) t
    | none => c :: substitute more new 0 (Text.isWord c) t

section Substitute

variable {r : Regex} {more : Extent} {new : Text}

theorem Takes.replaceFrom_eq (h : r.Takes more) (skip offset : Nat) (previous : Option Char)
    (t : Text) :
    replaceFrom r new skip offset previous t =
      substitute more new skip (previous.any Text.isWord) t := by
  induction t generalizing skip offset previous with
  | nil => simp [replaceFrom, substitute, h.nil]
  | cons c t ih =>
      cases skip with
      | succ skip => simp only [replaceFrom, substitute, ih, Option.any_some]
      | zero =>
          have hcons := h.cons offset previous c t
          simp only [replaceFrom, substitute]
          cases hmatch : matchAt r offset previous (c :: t) with
          | none =>
              have hmore : more (previous.any Text.isWord) c t = none := by
                simpa [hmatch, eq_comm] using hcons
              simp only [hmore, ih, Option.any_some]
          | some m =>
              rw [hmatch, Option.map_some, eq_comm, Option.map_eq_some_iff] at hcons
              obtain ⟨n, hn, hstop⟩ := hcons
              have hne : m.stop ≠ offset := by omega
              have hskip : m.stop - offset - 1 = n := by omega
              simp [hn, hne, hskip, ih]

/-- Replacing is one pass. -/
theorem Takes.replaceAll_eq (h : r.Takes more) (t : Text) :
    r.replaceAll new t = substitute more new 0 false t :=
  h.replaceFrom_eq 0 0 none t

/-- What belongs to a match goes by. -/
theorem substitute_skip (n : Nat) (before : Bool) (s t : Text) :
    substitute more new (s.length + n) before (s ++ t) =
      substitute more new n (wordAfter before s) t := by
  induction s generalizing before with
  | nil => simp
  | cons c s ih =>
      rw [List.length_cons, Nat.succ_add, List.cons_append, substitute, ih, wordAfter_cons]

/-- Characters that begin no match stay. -/
theorem substitute_of_forall_none {s : Text} (hs : ∀ c ∈ s, ∀ before t, more before c t = none)
    (before : Bool) (t : Text) :
    substitute more new 0 before (s ++ t) = s ++ substitute more new 0 (wordAfter before s) t := by
  induction s generalizing before with
  | nil => rfl
  | cons c s ih =>
      rw [List.cons_append, substitute, hs c List.mem_cons_self]
      simp only
      rw [ih (fun d hd => hs d (List.mem_cons_of_mem _ hd)), wordAfter_cons]
      rfl

/-- A last character that begins no match and changes none stays at the end. -/
theorem substitute_concat {d : Char} (hnone : ∀ before t, more before d t = none)
    (hsame : ∀ before c t, more before c (t ++ [d]) = more before c t)
    (hle : ∀ before c t n, more before c t = some n → n ≤ t.length) {skip : Nat} (before : Bool)
    {t : Text} (hskip : skip ≤ t.length) :
    substitute more new skip before (t ++ [d]) = substitute more new skip before t ++ [d] := by
  induction t generalizing skip before with
  | nil =>
      obtain rfl : skip = 0 := Nat.le_zero.1 hskip
      simp [substitute, hnone]
  | cons c t ih =>
      cases skip with
      | succ skip =>
          simp only [List.cons_append, substitute]
          exact ih _ (Nat.le_of_succ_le_succ hskip)
      | zero =>
          simp only [List.cons_append, substitute, hsame]
          cases hmore : more before c t with
          | none => simp only [ih _ (Nat.zero_le _), List.cons_append]
          | some n => simp only [ih _ (hle before c t n hmore), List.append_assoc]

/-- So does one that begins no match and ends none. -/
theorem substitute_extent_concat {first : Bool → Char → Bool} {p : Char → Bool}
    {extra : Bool → Text → Option Nat} {d : Char} (hfirst : ∀ before, first before d = false)
    (hnil : ∀ before, runThen p extra before [d] = extra before [])
    (hcons : ∀ before c t, extra before (c :: (t ++ [d])) = extra before (c :: t))
    (hle : ∀ before t n, extra before t = some n → n ≤ t.length) (before : Bool) (t : Text) :
    substitute (extent first p extra) new 0 before (t ++ [d]) =
      substitute (extent first p extra) new 0 before t ++ [d] := by
  refine substitute_concat (fun before t => ?_) (fun before c t => ?_) (fun before c t n h => ?_)
    before (Nat.zero_le _)
  · simp [extent, hfirst]
  · simp only [extent, runThen_concat hnil hcons]
  · simp only [extent, Option.ite_none_right_eq_some] at h
    exact runThen_le_length hle h.2

end Substitute

/-! ## Runs of a class -/

/-- The text with something new in place of every run of a class. The flag says whether a run is
under way, in whose place the new text stands already. -/
def squash (p : Char → Bool) (new : Text) : (inRun : Bool) → Text → Text
  | _, [] => []
  | inRun, c :: t =>
    if p c then (if inRun then [] else new) ++ squash p new true t else c :: squash p new false t

section Squash

variable {p : Char → Bool} {new : Text}

/-- Whether a run is under way makes a difference only where one goes on. -/
theorem substitute_many1 (before : Bool) (t : Text) :
    substitute (extent (fun _ => p) p fun _ _ => some 0) new 0 before t = squash p new false t ∧
      substitute (extent (fun _ => p) p fun _ _ => some 0) new (t.takeWhile p).length before t =
        squash p new true t := by
  induction t generalizing before with
  | nil => exact ⟨rfl, rfl⟩
  | cons c t ih =>
      obtain ⟨hout, hin⟩ := ih (Text.isWord c)
      by_cases hc : p c = true
      · simp [substitute, extent, squash, hc, runThen_zero, hin]
      · simp [substitute, extent, squash, hc, hout]

theorem replaceAll_many1 (t : Text) : (many1 p).replaceAll new t = squash p new false t :=
  ((takes_many1 p).replaceAll_eq t).trans (substitute_many1 false t).1

/-- Texts that are the same once their runs are replaced are so after any other text. -/
theorem squash_append_congr {x y : Text} (h : ∀ inRun, squash p new inRun x = squash p new inRun y)
    (inRun : Bool) (s : Text) : squash p new inRun (s ++ x) = squash p new inRun (s ++ y) := by
  induction s generalizing inRun with
  | nil => exact h inRun
  | cons c s ih => simp only [List.cons_append, squash, ih]

/-- A run becomes the new text, however long it is. -/
theorem squash_run {w : Text} (hne : w ≠ []) (hw : ∀ c ∈ w, p c = true) (inRun : Bool) (t : Text) :
    squash p new inRun (w ++ t) = (if inRun then [] else new) ++ squash p new true t := by
  induction w generalizing inRun with
  | nil => exact absurd rfl hne
  | cons c w ih =>
      rw [List.cons_append, squash, if_pos (hw c List.mem_cons_self)]
      rcases List.eq_nil_or_concat w with rfl | ⟨_, _, hconcat⟩
      · rfl
      · rw [ih (by simp [hconcat]) fun d hd => hw d (List.mem_cons_of_mem _ hd)]
        rfl

/-- A text without characters of the class stays, and what is on its two sides is told apart. -/
theorem squash_append_of_not {w : Text} (hne : w ≠ []) (hw : ∀ c ∈ w, p c = false) (inRun : Bool)
    (s t : Text) :
    squash p new inRun (s ++ w ++ t) = squash p new inRun s ++ w ++ squash p new false t := by
  induction s generalizing inRun with
  | cons c s ih =>
      simp only [List.cons_append, squash, ih]
      split <;> simp
  | nil =>
      induction w generalizing inRun with
      | nil => exact absurd rfl hne
      | cons c w ih =>
          rcases List.eq_nil_or_concat w with rfl | ⟨_, _, hconcat⟩
          · simp [squash, hw c List.mem_cons_self]
          · have hrest :=
              ih (by simp [hconcat]) (fun d hd => hw d (List.mem_cons_of_mem _ hd)) false
            simp only [List.nil_append, squash] at hrest
            simp [squash, hw c List.mem_cons_self, hrest]

/-- A run that goes on from before is not told of again. -/
theorem squash_true_eq (t : Text) :
    squash p new false t = squash p new true t ∨
      squash p new false t = new ++ squash p new true t := by
  cases t with
  | nil => exact .inl rfl
  | cons c t =>
      by_cases hc : p c = true
      · exact .inr (by simp [squash, hc])
      · exact .inl (by simp [squash, hc])

/-- A run at the end leaves the new text there, unless one stands there already. -/
theorem squash_concat_run {w : Text} (hw : ∀ c ∈ w, p c = true) (inRun : Bool) (t : Text) :
    squash p new inRun (t ++ w) = squash p new inRun t ∨
      squash p new inRun (t ++ w) = squash p new inRun t ++ new := by
  induction t generalizing inRun with
  | nil =>
      by_cases hne : w = []
      · exact .inl (by rw [hne]; rfl)
      · have hrun : squash p new inRun (w ++ []) = _ := squash_run hne hw inRun []
        rw [List.append_nil] at hrun
        cases inRun
        · exact .inr (by simpa [squash] using hrun)
        · exact .inl (by simpa [squash] using hrun)
  | cons c t ih =>
      simp only [List.cons_append, squash]
      split
      · rcases ih true with h | h
        · exact .inl (by rw [h])
        · exact .inr (by rw [h, List.append_assoc])
      · rcases ih false with h | h
        · exact .inl (by rw [h])
        · exact .inr (by rw [h]; rfl)

end Squash

end Regex
end CodeSurvey
