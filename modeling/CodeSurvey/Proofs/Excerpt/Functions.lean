import CodeSurvey.Proofs.Excerpt.Ranking

/-!
# Functions of a file

A file gives few functions, each of them short, on lines of their own and worth showing. Since all
that a category finds in different files begins on different lines, taking out what begins twice
takes out nothing.
-/

namespace CodeSurvey
namespace Category

variable {path t : Text} {e : Excerpt}

/-- A function that is worth showing has a name that says something. -/
theorem name_of_isInteresting {name : Text} {offset : Nat}
    (h : isInteresting name t offset = true) :
    3 ≤ name.length ∧ name ∉ Finder.trivialNames := by
  simp only [isInteresting, Bool.and_eq_true, decide_eq_true_eq, Bool.not_eq_true'] at h
  obtain ⟨⟨⟨hlength, hname⟩, -⟩, -⟩ := h
  exact ⟨hlength, by simpa using hname⟩

theorem length_findFunctions_le (path t : Text) :
    (findFunctions path t).length ≤ functionLimit := by
  rw [findFunctions, List.length_map]
  exact (picked_pickFunctions t _).length_le

/-- The block of a function is followed for a limited number of lines, whichever way its end is
found. -/
theorem functionEnd_le_add (python : Bool) {ls : List Text} {line : Nat} (h : line < ls.length) :
    functionEnd python ls line ≤ line + blockLimit := by
  have hlimit : 1 ≤ blockLimit := by decide
  cases python with
  | true =>
      obtain ⟨stop, hstop, -, -⟩ := indentEnd?_bounds h blockLimit
      simp only [functionEnd, hstop, if_true, Option.getD_some]
      exact indentEnd?_le_add hlimit hstop
  | false => exact braceEnd_le_add ls line hlimit

/-- The excerpt of a function begins with its line and ends with its block. -/
theorem exists_declared_of_mem_findFunctions (h : e ∈ findFunctions path t) :
    ∃ name offset, (name, offset) ∈ declaredFunctions (isPython path) t ∧
      e.startLine = lineOfOffset t offset + 1 ∧ e.endLine ≤ lineOfOffset t offset + blockLimit ∧
      isInteresting name t offset = true := by
  simp only [findFunctions] at h
  obtain ⟨⟨line, name⟩, hpick, rfl⟩ := List.mem_map.1 h
  obtain ⟨offset, hdeclared, rfl, hworth⟩ := (picked_pickFunctions t _).worthy line name hpick
  refine ⟨name, offset, hdeclared, startLine_functionExcerpt .., ?_, hworth⟩
  have hend := functionEnd_le_add (isPython path) (lineOfOffset_lt t offset)
  have hlimit : 1 ≤ blockLimit := by decide
  rw [endLine_functionExcerpt, Nat.max_le]
  exact ⟨by omega, hend⟩

/-- The functions of one file begin on different lines. -/
theorem nodup_startLine_findFunctions (path t : Text) :
    ((findFunctions path t).map (·.startLine)).Nodup := by
  have hstarts : ((findFunctions path t).map Excerpt.start).Nodup :=
    nodup_starts_find function path t
  rw [List.Nodup, List.pairwise_map] at hstarts ⊢
  refine hstarts.imp_of_mem ?_
  intro e e' he he' hne hline
  apply hne
  rw [Excerpt.start, Excerpt.start, hline, path_of_mem_find (c := function) he,
    path_of_mem_find (c := function) he']

/-- At most three functions of a file are shown. They begin on different lines, each on the line of
a declared function whose name has at least three characters and is not one that says too little,
and none is longer than thirty lines. Where all files are different, no excerpt of any category is
left out for beginning where another does. -/
theorem functions_few_short_and_kept (s : Settings) (read : Text → Except ReadFailure Text) :
    (∀ path t,
      let found := find function path t
      found.length ≤ 3 ∧ (found.map (·.startLine)).Nodup ∧
      ∀ e ∈ found, e.startLine ≤ e.endLine ∧ e.endLine + 1 - e.startLine ≤ 30 ∧
        (Text.lines e.code).length ≤ 30 ∧
        ∃ name offset, (name, offset) ∈ declaredFunctions (isPython path) t ∧
          e.startLine = lineOfOffset t offset + 1 ∧
          3 ≤ name.length ∧ name ∉ Finder.trivialNames) ∧
    ∀ files, files.Nodup → ∀ c,
      dropSameStart (gatherExcerpts s read c files) = gatherExcerpts s read c files := by
  constructor
  · intro path t found
    refine ⟨length_findFunctions_le path t, nodup_startLine_findFunctions path t, ?_⟩
    intro e he
    obtain ⟨name, offset, hdeclared, hstart, hend, hworth⟩ :=
      exists_declared_of_mem_findFunctions he
    have hrange : e.IsRangeOf t := (shown_of_mem_find (c := function) he).isRange
    have hspan : e.endLine + 1 - e.startLine ≤ 30 := by
      rw [blockLimit] at hend
      omega
    refine ⟨hrange.start_le_end, hspan, ?_, name, offset, hdeclared, hstart,
      name_of_isInteresting hworth⟩
    have hle := hrange.start_le_end
    rw [hrange.length_lines_code]
    omega
  · intro files hfiles c
    exact dropSameStart_eq_self (nodup_starts_gatherExcerpts hfiles)

/-- A file with one function. -/
def greeter : Text := "def greet(names):\n    for name in names:\n        return name\n"

/-- The function of a file is shown by its name, and in two such files neither is left out. -/
theorem function_of_greeter :
    let files : List Text := ["lib/greet.py", "lib/welcome.py"]
    let gathered := gatherExcerpts .standard (fun _ => .ok greeter) function files
    files.Nodup ∧ gathered.length = 2 ∧ dropSameStart gathered = gathered ∧
      ∃ e ∈ find function "lib/greet.py" greeter, (Text.lines e.code).length ≤ 30 ∧
        ∃ name offset, (name, offset) ∈ declaredFunctions true greeter ∧
          e.startLine = lineOfOffset greeter offset + 1 ∧ 3 ≤ name.length := by
  intro files gathered
  have hfiles : files.Nodup := by decide +kernel
  obtain ⟨hfound, hkept⟩ := functions_few_short_and_kept .standard (fun _ => .ok greeter)
  have hlength : (find function "lib/greet.py" greeter).length = 1 := by decide +kernel
  obtain ⟨e, he⟩ := List.length_eq_one_iff.1 hlength
  have hmem : e ∈ find function "lib/greet.py" greeter := he ▸ List.mem_cons_self
  obtain ⟨-, -, hcode, name, offset, hdeclared, hstart, hname, -⟩ :=
    (hfound "lib/greet.py" greeter).2.2 e hmem
  have hpython : isPython "lib/greet.py" = true := by decide +kernel
  rw [hpython] at hdeclared
  exact ⟨hfiles, by decide +kernel, hkept files hfiles function, e, hmem, hcode, name, offset,
    hdeclared, hstart, hname⟩

end Category
end CodeSurvey
