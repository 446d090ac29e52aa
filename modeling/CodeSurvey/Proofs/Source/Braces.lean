import CodeSurvey.Proofs.Source.Block
import Mathlib.Order.Bounds.Basic

/-!
# Where blocks of braces end

A block of braces ends with the first line on which its braces come out even, that is, on which as
many have been closed as have been opened since the line it begins on, and one has been opened.
Every brace of a line counts, and the depth may fall below zero on the way. A block whose braces do
not come out even within the limit ends at the limit, or with the text if that comes first.

The models of a schema are followed by a second search, which counts lines that hold a brace instead
of braces. It gives the first line no chance to end the block. Where no line holds a brace twice,
the two searches find the same end, unless the block closes on the line it begins on and other
lines follow: then the second search goes on to the next line at least.

## Main definitions

* `ClosesOn ls start i`: the braces of the lines from `start` to `i` come out even.
* `closingLines ls start limit`: the lines within the limit for which they do.
-/

namespace CodeSurvey

/-- The lines from `start` to `i`, both included, open a brace and close as many as they open. -/
def ClosesOn (ls : List Text) (start i : Nat) : Prop :=
  let block := ((ls.take (i + 1)).drop start).flatten
  '{' ∈ block ∧ block.count '{' = block.count '}'

instance (ls : List Text) (start i : Nat) : Decidable (ClosesOn ls start i) :=
  inferInstanceAs (Decidable (_ ∧ _))

/-- The lines on which a block that begins on line `start` and is followed for `limit` lines may
end. -/
def closingLines (ls : List Text) (start limit : Nat) : Set Nat :=
  {i | start ≤ i ∧ i < start + limit ∧ i < ls.length ∧ ClosesOn ls start i}

variable {ls : List Text} {start limit : Nat}

/-! ## The search by braces -/

section Search

variable {depth : Int} {opened : Bool}

/-- The lines bring a depth back to zero, and a brace has been opened, in them or before. -/
def ComesEven (depth : Int) (opened : Bool) (block : List Text) : Prop :=
  (opened = true ∨ '{' ∈ block.flatten) ∧ depth + braceBalance block.flatten = 0

instance (block : List Text) : Decidable (ComesEven depth opened block) :=
  inferInstanceAs (Decidable (_ ∧ _))

theorem braceBalance_append (s t : Text) :
    braceBalance (s ++ t) = braceBalance s + braceBalance t := by
  simp only [braceBalance, List.count_append]
  omega

/-- What has been read of a block is in the depth and in whether a brace has been opened. -/
theorem comesEven_cons {line : Text} {block : List Text} :
    ComesEven depth opened (line :: block) ↔
      ComesEven (depth + braceBalance line) (opened || line.contains '{') block := by
  simp only [ComesEven, List.flatten_cons, List.mem_append, braceBalance_append, Bool.or_eq_true,
    List.contains_iff_mem, or_assoc, Int.add_assoc]

theorem comesEven_nil : ComesEven depth opened [] ↔ (opened && depth == 0) = true := by
  simp [ComesEven, braceBalance]

/-- The search finds the first line up to which the braces come out even. -/
theorem closingLine?_eq_find? (depth : Int) (opened : Bool) (ls : List Text) :
    closingLine? depth opened ls =
      (List.range ls.length).find? fun n => decide (ComesEven depth opened (ls.take (n + 1))) := by
  -- the depth and the flag are general: the lines before the rest are in them
  induction ls generalizing depth opened with
  | nil => rfl
  | cons line ls ih =>
      rw [List.length_cons, List.range_succ_eq_map, List.find?_cons, List.find?_map]
      simp only [closingLine?, ih, Function.comp_def, List.take_succ_cons, List.take_zero,
        comesEven_cons, comesEven_nil, Bool.decide_eq_true]
      cases (opened || line.contains '{') && depth + braceBalance line == 0 <;> rfl

end Search

/-- Where the search begins on line `start` it reads the lines within the limit. -/
theorem add_mem_closingLines_iff {n : Nat} :
    start + n ∈ closingLines ls start limit ↔
      n < ((ls.drop start).take limit).length ∧
        ComesEven 0 false (((ls.drop start).take limit).take (n + 1)) := by
  have hlines : start + n ∈ closingLines ls start limit ↔
      n < ((ls.drop start).take limit).length ∧ ClosesOn ls start (start + n) := by
    rw [List.length_take, List.length_drop]
    constructor
    · rintro ⟨-, hlimit, hlength, hcloses⟩
      exact ⟨by omega, hcloses⟩
    · rintro ⟨hn, hcloses⟩
      exact ⟨by omega, by omega, by omega, hcloses⟩
  rw [hlines]
  refine and_congr_right fun hn => ?_
  have hblock : (((ls.drop start).take limit).take (n + 1)) =
      (ls.take (start + n + 1)).drop start := by
    rw [List.length_take] at hn
    rw [List.take_take, Nat.min_eq_left (by omega), List.take_drop, Nat.add_assoc]
  simp only [ClosesOn, ComesEven, braceBalance, hblock, Bool.false_eq_true, false_or]
  refine and_congr_right fun _ => ?_
  omega

theorem closingLine?_of_isLeast {n : Nat} (h : IsLeast (closingLines ls start limit) (start + n)) :
    closingLine? 0 false ((ls.drop start).take limit) = some n := by
  obtain ⟨hlt, heven⟩ := add_mem_closingLines_iff.1 h.1
  rw [closingLine?_eq_find?, List.find?_range_eq_some]
  refine ⟨decide_eq_true heven, List.mem_range.2 hlt, fun m hm => ?_⟩
  have hnot : ¬ ComesEven 0 false (((ls.drop start).take limit).take (m + 1)) := fun hm' =>
    Nat.not_le.2 (Nat.add_lt_add_left hm start)
      (h.2 (add_mem_closingLines_iff.2 ⟨Nat.lt_trans hm hlt, hm'⟩))
  simpa using hnot

theorem closingLine?_of_closingLines_eq_empty (h : closingLines ls start limit = ∅) :
    closingLine? 0 false ((ls.drop start).take limit) = none := by
  rw [closingLine?_eq_find?, List.find?_range_eq_none]
  intro m hm
  have hnot : ¬ ComesEven 0 false (((ls.drop start).take limit).take (m + 1)) := fun hm' =>
    Set.eq_empty_iff_forall_notMem.1 h (start + m) (add_mem_closingLines_iff.2 ⟨hm, hm'⟩)
  simpa using hnot

/-- A block of braces ends with the first line within the limit on which its braces come out even.
Where they come out even on none, it ends at the limit or with the text, whichever comes first. -/
theorem braceEnd_at_first_closing_line (hstart : start < ls.length) (hlimit : 1 ≤ limit) :
    (∀ i, IsLeast (closingLines ls start limit) i → braceEnd ls start limit = i + 1) ∧
      (closingLines ls start limit = ∅ →
        braceEnd ls start limit = min ls.length (start + limit)) := by
  rw [braceEnd, Nat.max_eq_left hlimit]
  constructor
  · intro i hi
    obtain ⟨n, rfl⟩ := Nat.exists_eq_add_of_le hi.1.1
    rw [closingLine?_of_isLeast hi]
  · intro hnone
    rw [closingLine?_of_closingLines_eq_empty hnone]
    simp only [List.length_take, List.length_drop]
    omega

/-- A loop whose braces come out even on its third line, as far as that line is read. -/
theorem braceEnd_of_loop :
    let loop : List Text := ["do \x7b if (a) \x7b", "\x7d", "\x7d while (b)", "c()"]
    0 < loop.length ∧ IsLeast (closingLines loop 0 3) 2 ∧ closingLines loop 0 2 = ∅ ∧
      braceEnd loop 0 3 = 3 ∧ braceEnd loop 0 2 = min 4 2 := by
  intro loop
  have hopen : ∀ i < 2, ¬ ClosesOn loop 0 i := by decide
  have hleast : IsLeast (closingLines loop 0 3) 2 :=
    ⟨⟨by decide, by decide, by decide, by decide⟩,
      fun i hi => Nat.not_lt.1 fun hlt => hopen i hlt hi.2.2.2⟩
  have hnone : closingLines loop 0 2 = ∅ :=
    Set.eq_empty_iff_forall_notMem.2 fun i hi => hopen i (by simpa using hi.2.1) hi.2.2.2
  have hlength : 0 < loop.length := by decide
  exact ⟨hlength, hleast, hnone,
    (braceEnd_at_first_closing_line hlength (by decide)).1 2 hleast,
    (braceEnd_at_first_closing_line hlength (by decide)).2 hnone⟩

/-! ## The search by lines -/

/-- No line holds two opening or two closing braces. -/
def BracesApart (ls : List Text) : Prop := ∀ line ∈ ls, line.count '{' ≤ 1 ∧ line.count '}' ≤ 1

instance (ls : List Text) : Decidable (BracesApart ls) :=
  inferInstanceAs (Decidable (∀ line ∈ ls, _))

theorem BracesApart.drop (h : BracesApart ls) (n : Nat) : BracesApart (ls.drop n) :=
  fun line hline => h line (List.mem_of_mem_drop hline)

theorem count_eq_ite_contains {c : Char} {line : Text} (h : line.count c ≤ 1) :
    (line.count c : Int) = if line.contains c then 1 else 0 := by
  by_cases hc : c ∈ line
  · have hpos : 0 < line.count c := List.count_pos_iff.2 hc
    rw [if_pos (List.contains_iff_mem.2 hc)]
    omega
  · rw [if_neg (fun hcontains => hc (List.contains_iff_mem.1 hcontains)),
      List.count_eq_zero.2 hc]
    rfl

theorem BracesApart.braceBalance_eq (h : BracesApart ls) {line : Text} (hline : line ∈ ls) :
    braceBalance line =
      (if line.contains '{' then 1 else 0) - (if line.contains '}' then 1 else 0) := by
  obtain ⟨hopens, hcloses⟩ := h line hline
  rw [braceBalance, count_eq_ite_contains hopens, count_eq_ite_contains hcloses]

/-- Once a brace has been opened, both searches stop on the same line. -/
theorem closingLine?_eq_evenLine? (h : BracesApart ls) (depth : Int) :
    closingLine? depth true ls = evenLine? depth ls := by
  induction ls generalizing depth with
  | nil => rfl
  | cons line ls ih =>
      have hrest : BracesApart ls := (List.forall_mem_cons.1 h).2
      have hbalance : depth + braceBalance line = depth + (if line.contains '{' then 1 else 0) -
          (if line.contains '}' then 1 else 0) := by
        rw [h.braceBalance_eq List.mem_cons_self, Int.add_sub_assoc]
      simp only [closingLine?, evenLine?, hbalance, Bool.true_or, Bool.true_and, ih hrest]

/-- A limit beyond the end of the text cuts no block. -/
theorem braceEnd_of_length_le (hstart : start < ls.length) (hlimit : ls.length ≤ limit) :
    braceEnd ls start limit =
      ((closingLine? 0 false (ls.drop start)).map (start + · + 1)).getD ls.length := by
  have hwindow : (ls.drop start).take (max limit 1) = ls.drop start := by
    refine List.take_of_length_le ?_
    rw [List.length_drop]
    omega
  rw [braceEnd, hwindow]
  cases closingLine? 0 false (ls.drop start) with
  | some n => rfl
  | none =>
      simp only [List.length_drop, Option.map_none, Option.getD_none]
      omega

/-- The search by lines does not end a block on the line that it begins on. -/
theorem add_two_le_braceLineEnd (h : start + 1 < ls.length) :
    start + 2 ≤ braceLineEnd ls start := by
  rw [braceLineEnd, List.drop_eq_getElem_cons (Nat.lt_of_succ_lt h)]
  simp only
  split <;> omega

/-- A line that opens a brace and closes one is the whole block. -/
theorem braceEnd_of_closed_line (hstart : start < ls.length) (hopen : '{' ∈ ls[start])
    (hclose : '}' ∈ ls[start]) (hapart : BracesApart ls) (hlimit : ls.length ≤ limit) :
    braceEnd ls start limit = start + 1 := by
  have hbalance : braceBalance ls[start] = 0 := by
    rw [hapart.braceBalance_eq (List.getElem_mem hstart)]
    simp [hopen, hclose]
  rw [braceEnd_of_length_le hstart hlimit, List.drop_eq_getElem_cons hstart]
  simp [closingLine?, hbalance, hopen]

/-- A line that opens a brace and closes none leaves it to the lines after it to end the block. -/
theorem braceLineEnd_eq_braceEnd_of_not_mem (hstart : start < ls.length) (hopen : '{' ∈ ls[start])
    (hclose : '}' ∉ ls[start]) (hapart : BracesApart ls) (hlimit : ls.length ≤ limit) :
    braceLineEnd ls start = braceEnd ls start limit := by
  have hbalance : braceBalance ls[start] = 1 := by
    rw [hapart.braceBalance_eq (List.getElem_mem hstart)]
    simp [hopen, hclose]
  have hfound : closingLine? 0 false (ls.drop start) =
      (evenLine? 1 (ls.drop (start + 1))).map (· + 1) := by
    rw [List.drop_eq_getElem_cons hstart]
    simp [closingLine?, hbalance, hopen, closingLine?_eq_evenLine? (hapart.drop _)]
  have hcontains : ls[start].contains '}' = false := by simpa using hclose
  rw [braceEnd_of_length_le hstart hlimit, hfound, braceLineEnd, List.drop_eq_getElem_cons hstart]
  simp only [List.contains_iff_mem.2 hopen, hcontains, if_true, Bool.false_eq_true, if_false,
    Int.sub_zero]
  cases evenLine? 1 (ls.drop (start + 1)) with
  | some n => rfl
  | none => rfl

/-- Where no line holds a brace twice, the two searches find the same end of a block unless the
first line closes the block and is not the last one; the search by lines then goes too far. -/
theorem braceLineEnd_eq_braceEnd_iff (hstart : start < ls.length) (hopen : '{' ∈ ls[start])
    (hapart : BracesApart ls) (hlimit : ls.length ≤ limit) :
    (braceLineEnd ls start = braceEnd ls start limit ↔
        '}' ∉ ls[start] ∨ start + 1 = ls.length) ∧
      braceEnd ls start limit ≤ braceLineEnd ls start := by
  -- only a line that closes a brace can end the block that it begins
  by_cases hclose : '}' ∈ ls[start]
  · have hend := braceEnd_of_closed_line hstart hopen hclose hapart hlimit
    obtain ⟨hlt, hle⟩ := braceLineEnd_bounds hstart
    have hlong : start + 1 < ls.length → start + 2 ≤ braceLineEnd ls start :=
      add_two_le_braceLineEnd
    rw [hend]
    refine ⟨⟨fun heq => .inr ?_, ?_⟩, hlt⟩
    · omega
    · rintro (hnot | hlast)
      · exact absurd hclose hnot
      · omega
  · have hsame := braceLineEnd_eq_braceEnd_of_not_mem hstart hopen hclose hapart hlimit
    exact ⟨⟨fun _ => .inl hclose, fun _ => hsame⟩, Nat.le_of_eq hsame.symm⟩

/-- A schema with a model that is closed on the line it begins on, and another one below. -/
def tagSchema : List Text :=
  ["model Tag \x7b\x7d", "model User \x7b", "  roles Json @default(\x7b\x7d)", "\x7d"]

/-- The lower model of the schema ends on the same line for both searches. -/
theorem braceLineEnd_of_lower_model :
    ∃ h : 1 < tagSchema.length, '{' ∈ tagSchema[1] ∧ BracesApart tagSchema ∧
      tagSchema.length ≤ 4 ∧ '}' ∉ tagSchema[1] ∧
      braceLineEnd tagSchema 1 = braceEnd tagSchema 1 4 := by
  have hlength : 1 < tagSchema.length := by decide
  have hopen : '{' ∈ tagSchema[1] := by decide +revert
  have hclose : '}' ∉ tagSchema[1] := by decide +revert
  have hapart : BracesApart tagSchema := by decide
  exact ⟨hlength, hopen, hapart, Nat.le_refl _, hclose,
    (braceLineEnd_eq_braceEnd_iff hlength hopen hapart (Nat.le_refl _)).1.2 (.inl hclose)⟩

/-- The upper model ends on its own line, but the search by lines goes on to the end of the lower
one. -/
theorem braceLineEnd_of_upper_model_ne :
    ∃ h : 0 < tagSchema.length, '{' ∈ tagSchema[0] ∧ BracesApart tagSchema ∧
      tagSchema.length ≤ 4 ∧ braceEnd tagSchema 0 4 = 1 ∧ braceLineEnd tagSchema 0 = 4 := by
  refine ⟨?_, ?_, ?_, ?_, ?_, ?_⟩ <;> decide

end CodeSurvey
