import CodeSurvey.Manifest.Python
import CodeSurvey.Proofs.Text.Blanks
import CodeSurvey.Proofs.Text.Boundaries
import CodeSurvey.Proofs.Text.Lower
import Mathlib.Data.List.Basic

/-!
# Lists of requirements, written and read

A list of requirements is written one to a line, with blank lines, comments and options between
them. No character of a name ends the name, and what is asked of a requirement begins with one that
does. So reading the list gives the names, in order and with repetitions, whatever the lines between
them say and however lines end.

## Main definitions

* `Requirement`: a name with what is asked of it.
* `RequirementLine`: an indented line with a requirement or without one.
* `RequirementList`, `RequirementList.written`: some lines with their ends, and the text of them.
-/

namespace CodeSurvey

/-! ## Written lists -/

/-- Whether a character can stand in a name. -/
def isNameChar (c : Char) : Bool := c.isAlphanum || ['.', '_', '-'].contains c

/-- A requirement: a name that begins with a letter or a digit, and what is asked of it in the rest
of the line. -/
structure Requirement where
  name : Text
  specifier : Text
  begins : name.head?.any Char.isAlphanum = true
  plain : ∀ c ∈ name, isNameChar c = true
  marked : ∀ c ∈ specifier.head?,
    c ∈ ['<', '>', '=', '!', '~', ';', '[', '@'] ∨ Text.isBlank c = true
  oneLine : ∀ c ∈ specifier, Text.isLineBoundary c = false

/-- What a line holds behind its indentation: a requirement, nothing, or a comment or an option,
which begin with a mark. -/
inductive LineContent where
  | requirement (r : Requirement)
  | nothing
  | aside (mark : Char) (rest : Text) (isMark : mark = '#' ∨ mark = '-')
      (oneLine : ∀ c ∈ rest, Text.isLineBoundary c = false)

/-- The text of such a content. -/
def LineContent.written : LineContent → Text
  | requirement r => r.name ++ r.specifier
  | nothing => []
  | aside mark rest _ _ => mark :: rest

/-- The requirement in a line, if there is one. -/
def LineContent.requirement? : LineContent → Option Requirement
  | requirement r => some r
  | nothing | aside .. => none

/-- A line, indented by blanks. -/
structure RequirementLine where
  indent : Text
  content : LineContent
  blank : ∀ c ∈ indent, Text.isBlank c = true

/-- The text of a line. -/
def RequirementLine.written (l : RequirementLine) : Text := l.indent ++ l.content.written

/-- What ends a line: one boundary, or a carriage return and a newline. -/
inductive LineEnd where
  | boundary (c : Char) (isBoundary : Text.isLineBoundary c = true)
  | returnNewline

/-- The text of a line end. -/
def LineEnd.written : LineEnd → Text
  | boundary c _ => [c]
  | returnNewline => ['\r', '\n']

/-- Lines with their ends, and a last line without one. -/
structure RequirementList where
  lines : List (RequirementLine × LineEnd)
  last : RequirementLine

namespace RequirementList

/-- The text of a list. -/
def written (l : RequirementList) : Text :=
  (l.lines.flatMap fun line => line.1.written ++ line.2.written) ++ l.last.written

/-- The requirements of a list, in the order of the lines. -/
def entries (l : RequirementList) : List Requirement :=
  (l.lines.map (·.1) ++ [l.last]).filterMap fun line => line.content.requirement?

end RequirementList

/-! ## Characters of names -/

section Characters

variable {c : Char}

theorem toNat_lt_of_isNameChar (h : isNameChar c = true) : c.toNat < 0x80 := by
  rw [isNameChar, Bool.or_eq_true] at h
  rcases h with h | h
  · exact Text.toNat_lt_of_isAlphanum h
  · simp only [List.contains_eq_mem, List.mem_cons, List.not_mem_nil, or_false,
      decide_eq_true_eq] at h
    rcases h with rfl | rfl | rfl <;> decide

/-- A character of a name does not end it. -/
theorem endsName_of_isNameChar (h : isNameChar c = true) : endsName c = false := by
  have hpoints : ∀ n < 0x80, isNameChar (Char.ofNat n) = true →
      endsName (Char.ofNat n) = false := by
    decide +kernel
  have hends := hpoints c.toNat (toNat_lt_of_isNameChar h)
  rw [Char.ofNat_toNat] at hends
  exact hends h

theorem isBlank_of_isNameChar (h : isNameChar c = true) : Text.isBlank c = false := by
  have hends := endsName_of_isNameChar h
  rw [endsName, Bool.or_eq_false_iff] at hends
  exact hends.2

theorem isLineBoundary_of_isNameChar (h : isNameChar c = true) :
    Text.isLineBoundary c = false := by
  rw [← Bool.not_eq_true]
  intro hboundary
  have hblank := isBlank_of_isNameChar h
  rw [Text.isBlank_of_isLineBoundary hboundary] at hblank
  contradiction

end Characters

namespace Requirement

variable (r : Requirement)

theorem exists_name_cons : ∃ c rest, r.name = c :: rest ∧ c.isAlphanum = true := by
  obtain ⟨c, hc, halphanum⟩ := (Option.any_eq_true _ _).1 r.begins
  obtain ⟨rest, hname⟩ := List.head?_eq_some_iff.1 hc
  exact ⟨c, rest, hname, halphanum⟩

/-- What is asked of a requirement, or a part of it from its beginning, begins where the name
ends. -/
theorem takeWhile_name {s back : Text} (hs : r.specifier = s ++ back) :
    (r.name ++ s).takeWhile (fun c => !endsName c) = r.name := by
  have hname : ∀ c ∈ r.name, (!endsName c) = true := fun c hc => by
    rw [endsName_of_isNameChar (r.plain c hc), Bool.not_false]
  rw [List.takeWhile_append_of_pos hname]
  cases s with
  | nil => simp
  | cons c s =>
      have hends : endsName c = true := by
        rw [endsName, Bool.or_eq_true, List.contains_eq_mem, decide_eq_true_eq]
        exact r.marked c (by simp [hs])
      simp [hends]

/-- Trimming a requirement takes nothing from its name. -/
theorem trim_line : ∃ s back, Text.trim (r.name ++ r.specifier) = r.name ++ s ∧
    r.specifier = s ++ back := by
  obtain ⟨c, rest, hname, halphanum⟩ := r.exists_name_cons
  have hc := isBlank_of_isNameChar (r.plain c (by simp [hname]))
  obtain ⟨s, back, htrim, happend, hback⟩ :=
    Text.exists_trim_cons hc (rest ++ r.specifier)
  rw [hname, List.cons_append, htrim]
  -- The blanks at the end lie in what is asked, since there are none in the name.
  rcases List.append_eq_append_iff.1 happend with ⟨mid, rfl, hspecifier⟩ | ⟨mid, hrest, rfl⟩
  · exact ⟨mid, back, by simp, hspecifier⟩
  · cases mid with
    | nil => exact ⟨[], r.specifier, by simp [hrest], rfl⟩
    | cons d mid =>
        have hd := isBlank_of_isNameChar (r.plain d (by simp [hname, hrest]))
        rw [hback d (by simp)] at hd
        contradiction

end Requirement

/-! ## One line -/

/-- The names in one line. -/
def lineNames (line : Text) : List Text := if isAside line then [] else namesOf [line]

theorem namesOf_cons (entry : Text) (entries : List Text) :
    namesOf (entry :: entries) = namesOf [entry] ++ namesOf entries := by
  rw [namesOf, List.map_cons, List.filter_cons]
  cases h : (requirementName entry).isEmpty <;> simp [namesOf, h]

theorem requirements_eq_flatMap (t : Text) :
    requirements t = (Text.splitLines t).flatMap lineNames := by
  rw [requirements]
  induction Text.splitLines t with
  | nil => rfl
  | cons line lines ih =>
      rw [List.flatMap_cons, ← ih, lineNames]
      cases h : isAside line with
      | true => rw [List.filter_cons_of_neg (by simp [h]), if_pos rfl, List.nil_append]
      | false =>
          rw [List.filter_cons_of_pos (by simp [h]), if_neg Bool.false_ne_true, ← namesOf_cons]

@[simp] theorem lineNames_nil : lineNames [] = [] := rfl

/-- Indentation changes nothing in the names of a line. -/
theorem lineNames_cons_of_blank {c : Char} (hc : Text.isBlank c = true) (line : Text) :
    lineNames (c :: line) = lineNames line := by
  have htrim := Text.trim_cons_of_blank hc line
  have hname : requirementName (c :: line) = requirementName line := by
    rw [requirementName, htrim, requirementName]
  rw [lineNames, lineNames, isAside, htrim, isAside]
  simp only [namesOf, List.map_cons, hname, List.map_nil]

theorem lineNames_requirement (r : Requirement) :
    lineNames (r.name ++ r.specifier) = [r.name.map Char.toLower] := by
  obtain ⟨s, back, htrim, hspecifier⟩ := r.trim_line
  obtain ⟨c, rest, hname, halphanum⟩ := r.exists_name_cons
  have haside : isAside (r.name ++ r.specifier) = false := by
    rw [isAside, htrim, hname, List.cons_append, Bool.or_eq_false_iff]
    constructor <;> rw [beq_eq_false_iff_ne] <;> rintro rfl <;> contradiction
  have hread : requirementName (r.name ++ r.specifier) = r.name := by
    rw [requirementName, htrim, r.takeWhile_name hspecifier]
    exact Text.trim_of_forall_not fun c hc => isBlank_of_isNameChar (r.plain c hc)
  rw [lineNames, haside, if_neg Bool.false_ne_true, namesOf, List.map_singleton, hread,
    List.filter_cons_of_pos (by simp [hname]), List.filter_nil, List.map_singleton,
    Text.lower_of_ascii fun c hc => toNat_lt_of_isNameChar (r.plain c hc)]

theorem lineNames_aside {mark : Char} (isMark : mark = '#' ∨ mark = '-') (rest : Text) :
    lineNames (mark :: rest) = [] := by
  have hmark : Text.isBlank mark = false := by rcases isMark with rfl | rfl <;> decide
  obtain ⟨s, back, htrim, -, -⟩ := Text.exists_trim_cons hmark rest
  rw [lineNames, if_pos]
  rw [isAside, htrim]
  simpa using isMark

namespace LineContent

/-- The names that a content puts into the list. -/
def names (content : LineContent) : List Text :=
  content.requirement?.toList.map fun r => r.name.map Char.toLower

theorem lineNames_written (content : LineContent) : lineNames content.written = content.names := by
  cases content with
  | requirement r => exact lineNames_requirement r
  | nothing => rfl
  | aside mark rest isMark => exact lineNames_aside isMark rest

theorem isLineBoundary_of_mem_written (content : LineContent) :
    ∀ c ∈ content.written, Text.isLineBoundary c = false := by
  cases content with
  | requirement r =>
      intro c hc
      rcases List.mem_append.1 hc with hc | hc
      · exact isLineBoundary_of_isNameChar (r.plain c hc)
      · exact r.oneLine c hc
  | nothing => nofun
  | aside mark rest isMark oneLine =>
      intro c hc
      rcases List.mem_cons.1 hc with rfl | hc
      · rcases isMark with rfl | rfl <;> decide
      · exact oneLine c hc

end LineContent

/-! ## Lines together -/

/-- The names in the pieces of a text between line boundaries. -/
def pieceNames (t : Text) : List Text := (Text.splitWhere Text.isLineBoundary t).flatMap lineNames

theorem requirements_eq_pieceNames (t : Text) : requirements t = pieceNames t := by
  rw [requirements_eq_flatMap, Text.flatMap_splitLines lineNames_nil, pieceNames]

theorem pieceNames_of_oneLine {t : Text} (ht : ∀ c ∈ t, Text.isLineBoundary c = false) :
    pieceNames t = lineNames t := by
  rw [pieceNames, Text.splitWhere_of_forall_not ht, List.flatMap_singleton]

theorem pieceNames_append_cons (x y : Text) {c : Char} (hc : Text.isLineBoundary c = true) :
    pieceNames (x ++ c :: y) = pieceNames x ++ pieceNames y := by
  rw [pieceNames, Text.splitWhere_append_cons x y hc, List.flatMap_append, pieceNames, pieceNames]

/-- Blanks before a text change no names in it, even those that end lines. -/
theorem pieceNames_cons_of_blank {c : Char} (hc : Text.isBlank c = true) (t : Text) :
    pieceNames (c :: t) = pieceNames t := by
  cases hboundary : Text.isLineBoundary c with
  | true => exact pieceNames_append_cons [] t hboundary
  | false =>
      rw [pieceNames, Text.splitWhere_cons_of_neg hboundary, List.flatMap_cons,
        lineNames_cons_of_blank hc, ← Text.flatMap_splitWhere lineNames, pieceNames]

theorem pieceNames_line (l : RequirementLine) : pieceNames l.written = l.content.names := by
  obtain ⟨indent, content, hblank⟩ := l
  rw [RequirementLine.written]
  induction indent with
  | nil =>
      rw [List.nil_append, pieceNames_of_oneLine content.isLineBoundary_of_mem_written,
        content.lineNames_written]
  | cons c indent ih =>
      rw [List.cons_append, pieceNames_cons_of_blank (hblank c List.mem_cons_self)]
      exact ih fun d hd => hblank d (List.mem_cons_of_mem c hd)

theorem pieceNames_append_lineEnd (x y : Text) (lineEnd : LineEnd) :
    pieceNames (x ++ lineEnd.written ++ y) = pieceNames x ++ pieceNames y := by
  rw [List.append_assoc]
  cases lineEnd with
  | boundary c isBoundary => exact pieceNames_append_cons x y isBoundary
  | returnNewline =>
      -- Between the return and the newline there is a piece of its own, which is empty.
      rw [LineEnd.written, List.cons_append, pieceNames_append_cons x _ (by decide),
        List.singleton_append, pieceNames_cons_of_blank (by decide)]

namespace RequirementList

theorem pieceNames_written (l : RequirementList) :
    pieceNames l.written =
      (l.lines.map (·.1) ++ [l.last]).flatMap fun line => line.content.names := by
  obtain ⟨lines, last⟩ := l
  induction lines with
  | nil => simpa [written] using pieceNames_line last
  | cons line lines ih =>
      simp only [written] at ih
      rw [written, List.flatMap_cons, List.append_assoc, pieceNames_append_lineEnd,
        pieceNames_line, ih]
      rfl

/-- Reading a list of requirements that was written gives the names in it in small letters, in order
and with repetitions. -/
theorem requirements_written (l : RequirementList) :
    requirements l.written = l.entries.map fun r => r.name.map Char.toLower := by
  rw [requirements_eq_pieceNames, pieceNames_written, entries, List.filterMap_eq_flatMap_toList,
    List.map_flatMap]
  rfl

/-- A requirement with an extra and the least version of it. -/
def flaskAsync : Requirement where
  name := "Flask"
  specifier := "[async] >= 2"
  begins := rfl
  plain := by simp [isNameChar]
  marked := by simp
  oneLine := by simp [Text.isLineBoundary]

/-- A requirement of the same package in capitals, with a condition. -/
def flaskInCapitals : Requirement where
  name := "FLASK"
  specifier := ";x"
  begins := rfl
  plain := by simp [isNameChar]
  marked := by simp
  oneLine := by simp [Text.isLineBoundary]

/-- An indented requirement, an option, an indented comment and the second requirement, with line
ends of both kinds. -/
def flaskTwice : RequirementList where
  lines := [
    (⟨"\t", .requirement flaskAsync, by simp [Text.isBlank]⟩, .returnNewline),
    (⟨[], .aside '-' "r more" (.inr rfl) (by simp [Text.isLineBoundary]), by simp⟩,
      .boundary '\n' rfl),
    (⟨"  ", .aside '#' " flask" (.inl rfl) (by simp [Text.isLineBoundary]),
      by simp [Text.isBlank]⟩, .boundary '\n' rfl)]
  last := ⟨[], .requirement flaskInCapitals, by simp⟩

/-- The text of that list names the package twice. -/
theorem requirements_flaskTwice :
    flaskTwice.written = "\tFlask[async] >= 2\r\n-r more\n  # flask\nFLASK;x".toList ∧
      requirements flaskTwice.written = ["flask".toList, "flask".toList] :=
  ⟨by decide, (requirements_written flaskTwice).trans (by decide)⟩

end RequirementList

end CodeSurvey
