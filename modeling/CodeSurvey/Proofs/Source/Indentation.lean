import CodeSurvey.Proofs.Source.Block
import Mathlib.Data.List.DropRight
import Mathlib.Data.Nat.Find

/-!
# Where indented blocks end

A block is headed by a line, and the lines below that are indented more belong to it. Blank lines
belong to it only where a line that is not blank comes after them. So below its end there are blank
lines, and then, unless the limit or the end of the text has been reached, a line that is indented
at most as much as the heading. An end with these properties is the only one.

## Main definitions

* `IsIndentedEnd ls start limit indent stop`: the block that a line of the given indentation heads
  ends before the line `stop`.
-/

namespace CodeSurvey

open Text

variable {ls : List Text} {start limit indent : Nat}

/-- A block that line `start` heads ends before line `stop`, where the heading has the given
indentation and the block is followed for fewer than `limit` lines below it. -/
structure IsIndentedEnd (ls : List Text) (start limit indent stop : Nat) : Prop where
  start_lt : start < stop
  le_min : stop ≤ min ls.length (start + limit)
  indented : ∀ i line, start < i → i < stop → ls[i]? = some line → isBlankLine line = false →
    indent < indentation line
  last : stop = start + 1 ∨ ∃ line, ls[stop - 1]? = some line ∧ isBlankLine line = false
  /-- The first line from the end on that says something is indented no more than the heading. -/
  next : ∀ i line, stop ≤ i → i < start + limit → ls[i]? = some line → isBlankLine line = false →
    (∀ j between, stop ≤ j → j < i → ls[j]? = some between → isBlankLine between = true) →
      indentation line ≤ indent

namespace IsIndentedEnd

variable {stop stop' : Nat}

/-- Of two ends, the first line after the lower one that says something would stand in the block of
the higher one. -/
theorem le_of_isIndentedEnd (h : IsIndentedEnd ls start limit indent stop)
    (h' : IsIndentedEnd ls start limit indent stop') : stop' ≤ stop := by
  classical
  by_contra hlt
  have hstart := h.start_lt
  have hle := h'.le_min
  have hspoken : ∃ i, stop ≤ i ∧ i < stop' ∧ ∃ line, ls[i]? = some line ∧
      isBlankLine line = false := by
    rcases h'.last with hstop' | hlast
    · omega
    · exact ⟨stop' - 1, by omega, by omega, hlast⟩
  -- the first such line belongs to the block of the higher end, and ends that of the lower one
  obtain ⟨hi, hi', line, hget, hline⟩ := Nat.find_spec hspoken
  have hmore := h'.indented _ line (by omega) hi' hget hline
  have hless := h.next _ line hi (by omega) hget hline fun j between hj hji hbetween => by
    by_contra hnot
    exact Nat.find_min hspoken hji
      ⟨hj, Nat.lt_trans hji hi', between, hbetween, eq_false_of_ne_true hnot⟩
  omega

theorem unique (h : IsIndentedEnd ls start limit indent stop)
    (h' : IsIndentedEnd ls start limit indent stop') : stop = stop' :=
  Nat.le_antisymm (h'.le_of_isIndentedEnd h) (h.le_of_isIndentedEnd h')

end IsIndentedEnd

/-! ## The lines of a block -/

/-- The lines that follow a heading are its block, then blank lines, then nothing or a line that is
not blank and not indented more. -/
theorem exists_eq_indentedLines_append (indent : Nat) (following : List Text) :
    ∃ blanks rest, following = indentedLines indent following ++ (blanks ++ rest) ∧
      (∀ line ∈ blanks, isBlankLine line = true) ∧
      ∀ line ∈ rest.head?, isBlankLine line = false ∧ indentation line ≤ indent := by
  let belongs : Text → Bool := fun line => isBlankLine line || decide (indent < indentation line)
  refine ⟨(following.takeWhile belongs).rtakeWhile isBlankLine, following.dropWhile belongs,
    ?_, fun line => List.mem_rtakeWhile_imp, fun line hline => ?_⟩
  · calc following
        = following.takeWhile belongs ++ following.dropWhile belongs :=
          List.takeWhile_append_dropWhile.symm
      _ = (following.takeWhile belongs).rdropWhile isBlankLine ++
            (following.takeWhile belongs).rtakeWhile isBlankLine ++
            following.dropWhile belongs := by rw [List.rdropWhile_append_rtakeWhile]
      _ = _ := List.append_assoc _ _ _
  · have hnot := List.head?_dropWhile_not belongs following
    rw [Option.mem_def.1 hline] at hnot
    simpa [belongs] using hnot

/-- A line of the block says nothing or is indented more. -/
theorem lt_indentation_of_mem_indentedLines {following : List Text} {line : Text}
    (h : line ∈ indentedLines indent following) (hline : isBlankLine line = false) :
    indent < indentation line := by
  have hmem := (List.rdropWhile_prefix isBlankLine _).subset h
  simpa [hline] using List.mem_takeWhile_imp hmem

/-- A block does not end with a blank line. -/
theorem isBlankLine_getLast?_indentedLines {following : List Text} {line : Text}
    (h : line ∈ (indentedLines indent following).getLast?) : isBlankLine line = false := by
  obtain ⟨hne, rfl⟩ := List.mem_getLast?_eq_getLast h
  exact eq_false_of_ne_true (List.rdropWhile_last_not isBlankLine _ hne)

/-! ## The end of a block -/

/-- Where the lines below a heading, as far as they are followed, are a block, then blank lines,
then nothing or a line that is not blank and not indented more, the block is all that the heading
heads. -/
theorem isIndentedEnd_of_parts {block blanks rest : List Text} (hstart : start < ls.length)
    (hlimit : 1 ≤ limit)
    (hlines : (ls.drop (start + 1)).take (limit - 1) = block ++ (blanks ++ rest))
    (hblock : ∀ line ∈ block, isBlankLine line = false → indent < indentation line)
    (hlast : ∀ line ∈ block.getLast?, isBlankLine line = false)
    (hblanks : ∀ line ∈ blanks, isBlankLine line = true)
    (hrest : ∀ line ∈ rest.head?, isBlankLine line = false ∧ indentation line ≤ indent) :
    IsIndentedEnd ls start limit indent (start + 1 + block.length) := by
  have hget {k : Nat} (hk : k < limit - 1) :
      ls[start + 1 + k]? = (block ++ (blanks ++ rest))[k]? := by
    rw [← hlines, List.getElem?_take_of_lt hk, List.getElem?_drop]
  have hlength := congrArg List.length hlines
  simp only [List.length_take, List.length_drop, List.length_append] at hlength
  refine ⟨by omega, by omega, fun i line hi hi' hline hspoken => ?_, ?_,
    fun i line hi hi' hline hspoken hbetween => ?_⟩
  · obtain ⟨k, rfl⟩ := Nat.exists_eq_add_of_le hi
    have hk : k < block.length := by omega
    rw [hget (by omega), List.getElem?_append_left hk] at hline
    exact hblock line (List.mem_of_getElem? hline) hspoken
  · cases hend : block.getLast? with
    | none => exact .inl (by rw [List.getLast?_eq_none_iff.1 hend, List.length_nil])
    | some line =>
        have hpos : 0 < block.length := List.length_pos_of_mem (List.mem_of_getLast? hend)
        refine .inr ⟨line, ?_, hlast line hend⟩
        rw [show start + 1 + block.length - 1 = start + 1 + (block.length - 1) by omega,
          hget (by omega), List.getElem?_append_left (by omega), ← List.getLast?_eq_getElem?, hend]
  · obtain ⟨k, rfl⟩ := Nat.exists_eq_add_of_le hi
    rw [Nat.add_assoc _ block.length, hget (by omega),
      List.getElem?_append_right (Nat.le_add_right _ _), Nat.add_sub_cancel_left] at hline
    have hblank : blanks.length ≤ k := by
      by_contra hk
      rw [List.getElem?_append_left (by omega)] at hline
      simp [hblanks line (List.mem_of_getElem? hline)] at hspoken
    rw [List.getElem?_append_right hblank] at hline
    cases rest with
    | nil => simp at hline
    | cons next rest =>
        obtain ⟨hnext, hindent⟩ := hrest next rfl
        rcases Nat.eq_or_lt_of_le hblank with rfl | hlt
        · obtain rfl : next = line := by simpa using hline
          exact hindent
        · -- the line after the blank ones comes first and says something
          have hget' : ls[start + 1 + block.length + blanks.length]? = some next := by
            rw [Nat.add_assoc _ block.length, hget (by omega)]
            simp
          have := hbetween _ next (Nat.le_add_right _ _) (by omega) hget'
          simp [hnext] at this

/-- A block that a line heads ends before the first line within the limit that says something and is
indented no more than the heading, without blank lines at its end; no other end is like this. -/
theorem indented_block_has_one_end (hstart : start < ls.length) (hlimit : 1 ≤ limit) :
    ∃ stop, indentEnd? ls start limit = some stop ∧
      IsIndentedEnd ls start limit (indentation ls[start]) stop ∧
      ∀ other, IsIndentedEnd ls start limit (indentation ls[start]) other → other = stop := by
  obtain ⟨blanks, rest, hlines, hblanks, hrest⟩ := exists_eq_indentedLines_append
    (indentation ls[start]) ((ls.drop (start + 1)).take (limit - 1))
  have hend := isIndentedEnd_of_parts hstart hlimit hlines
    (fun _ => lt_indentation_of_mem_indentedLines) (fun _ => isBlankLine_getLast?_indentedLines)
    hblanks hrest
  refine ⟨_, ?_, hend, fun other hother => hother.unique hend⟩
  rw [indentEnd?, List.drop_eq_getElem_cons hstart]

/-- A block with a blank line inside and two below it. The limit reaches the line that ends it. -/
theorem indented_block_end_of_function :
    let function : List Text :=
      ["def f(a):", "    if a:", "", "        g(a)", "", "\t", "b = 1", "    c"]
    0 < function.length ∧ 1 ≤ 7 ∧ indentEnd? function 0 7 = some 4 ∧
      IsIndentedEnd function 0 7 0 4 := by
  intro function
  have hlength : 0 < function.length := by decide
  obtain ⟨stop, hstop, hend, -⟩ := indented_block_has_one_end hlength (by decide : 1 ≤ 7)
  have hfour : indentEnd? function 0 7 = some 4 := by decide
  obtain rfl : stop = 4 := Option.some.inj (hstop.symm.trans hfour)
  exact ⟨hlength, by decide, hfour, hend⟩

end CodeSurvey
