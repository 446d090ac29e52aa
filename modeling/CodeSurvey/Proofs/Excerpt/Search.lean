import CodeSurvey.Excerpt.Search
import CodeSurvey.Proofs.Excerpt.Ranking
import CodeSurvey.Proofs.Regex.Groups

/-!
# Searches end well

A search of a file never ends in a fault: each declaration of a function has its name, each block is
followed from a line that is there, and the least of the places of route handlers is taken only
where there are some. A search gives what the finders give, and follows one block for each function
and for the model of a schema. -/

namespace CodeSurvey

open Finder

namespace Search

variable {path t : Text}

/-! ## Names -/

/-- Every declaration of a function that is matched has its name. -/
theorem declarations_eq (python : Bool) (t : Text) :
    declarations python t = (declaredFunctions python t).map fun d => (some d.1, d.2) := by
  cases python with
  | true =>
      simp only [declarations, declaredFunctions, if_true]
      rw [List.map_filterMap, ← List.filterMap_eq_map]
      apply List.filterMap_congr
      intro m hm
      obtain ⟨g, hg⟩ := (Regex.finds_of_mem_findAll hm).exists_group_of_binds (n := 1) (by decide)
      simp [hg]
  | false =>
      have hbinds : ∀ r ∈ scriptFunctions, r.binds 1 = true := by decide
      simp only [declarations, declaredFunctions, Bool.false_eq_true, if_false]
      rw [List.map_flatMap]
      apply List.flatMap_congr
      intro r hr
      rw [List.map_map]
      apply List.map_congr_left
      intro m hm
      obtain ⟨g, hg⟩ := (Regex.finds_of_mem_findAll hm).exists_group_of_binds (hbinds r hr)
      simp [Regex.Match.groupText, hg]

/-! ## Functions -/

/-- A block that begins on a line of the file is followed to its end. -/
theorem functionEnd_eq (python : Bool) {ls : List Text} {line : Nat} (h : line < ls.length) :
    functionEnd python ls line = ⟨.ok (Category.functionEnd python ls line), [line]⟩ := by
  cases python with
  | true =>
      obtain ⟨stop, hstop, -, -⟩ := indentEnd?_bounds h blockLimit
      simp only [functionEnd, if_true, indentEnd, Traced.note_bind, hstop, Category.functionEnd,
        Option.getD_some]
      rfl
  | false => rfl

/-- The step of the search that shows a function: its block is followed from its line. -/
theorem functions_cons_of_interesting {python : Bool} {found : List Excerpt} {used : List Nat}
    {name : Text} {offset : Nat} (rest : List (Option Text × Nat))
    (hlimit : ¬functionLimit ≤ found.length) (hline : used.contains (lineOfOffset t offset) = false)
    (hworth : isInteresting name t offset = true) :
    let line := lineOfOffset t offset
    let next := functions path t python (Category.functionExcerpt path (Text.lines t) line name
      (Category.functionEnd python (Text.lines t) line) :: found) (line :: used) rest
    functions path t python found used ((some name, offset) :: rest) =
      ⟨next.result, line :: next.trace⟩ := by
  simp only [functions, hlimit, hline, hworth, Bool.false_eq_true, if_false, if_true,
    functionEnd_eq python (lineOfOffset_lt t offset)]
  rfl

/-- The search for functions goes through the declarations as they are picked, and follows a block
for each that is picked. -/
theorem functions_eq (path t : Text) (python : Bool) (picks : List (Nat × Text))
    (declared : List (Text × Nat)) :
    let block := fun pick : Nat × Text => Category.functionExcerpt path (Text.lines t) pick.1 pick.2
      (Category.functionEnd python (Text.lines t) pick.1)
    ∃ more, pickFunctions t picks declared = picks.reverse ++ more ∧
      functions path t python (picks.map block) (picks.map (·.1))
          (declared.map fun d => (some d.1, d.2)) =
        ⟨.ok ((picks.reverse ++ more).map block), more.map (·.1)⟩ := by
  intro block
  induction declared generalizing picks with
  | nil => exact ⟨[], by simp [pickFunctions], by simp [functions]; rfl⟩
  | cons d declared ih =>
      obtain ⟨name, offset⟩ := d
      have hused : (picks.map (·.1)).contains (lineOfOffset t offset) =
          picks.any (·.1 == lineOfOffset t offset) := by
        simp only [List.contains_eq_any_beq, List.any_map, Function.comp_def, Bool.beq_comm]
      by_cases hlimit : functionLimit ≤ picks.length
      · refine ⟨[], by simp [pickFunctions, hlimit], ?_⟩
        simp only [List.map_cons, functions, List.length_map, hlimit, if_true, List.append_nil,
          List.map_reverse]
        rfl
      by_cases hline : picks.any (·.1 == lineOfOffset t offset) = true
      · simpa only [List.map_cons, pickFunctions, functions, List.length_map, hused, hlimit, hline,
          if_true, if_false, Bool.true_or] using ih picks
      by_cases hworth : isInteresting name t offset = true
      · obtain ⟨more, hpick, hsearch⟩ := ih ((lineOfOffset t offset, name) :: picks)
        refine ⟨(lineOfOffset t offset, name) :: more, ?_, ?_⟩
        · simp [pickFunctions, hlimit, hline, hworth, hpick]
        · rw [List.map_cons, functions_cons_of_interesting _ (by simpa using hlimit)
            (by simpa [hused] using hline) hworth]
          simp only [List.map_cons] at hsearch
          rw [hsearch]
          simp
      · simpa [pickFunctions, functions, hused, hlimit, hline, hworth] using ih picks

end Search

/-! ## Categories -/

namespace Category

variable {path t : Text}

/-- The search for functions follows a block from the first line of each that it finds. -/
theorem search_function (path t : Text) :
    search function path t =
      ⟨.ok (find function path t), (find function path t).map (·.startLine - 1)⟩ := by
  obtain ⟨more, hpick, hsearch⟩ :=
    Search.functions_eq path t (isPython path) [] (declaredFunctions (isPython path) t)
  simp only [List.map_nil, List.reverse_nil, List.nil_append] at hpick hsearch
  simp only [search, Search.declarations_eq, hsearch, find, findFunctions, hpick, List.map_map]
  rfl

/-- The search for a route handler has a least place where it has places. -/
theorem search_api (path t : Text) : search api path t = pure (find api path t) := by
  cases hmin : (apiOffsets t).min? with
  | none =>
      have hnil : apiOffsets t = [] := List.min?_eq_none_iff.1 hmin
      simp [search, Search.api, find, findApi, hnil]
  | some offset =>
      have hne : apiOffsets t ≠ [] := by
        intro hnil
        simp [hnil] at hmin
      simp [search, Search.api, find, findApi, hmin, hne]

/-- The search of a schema follows a block from the first line of the model that it finds. -/
theorem search_model_of_schema (h : Language.ofPath path = "prisma".toList) (t : Text) :
    search model path t = ⟨.ok (find model path t), (find model path t).map (·.startLine - 1)⟩ := by
  simp only [search, find, findModel, h, beq_self_eq_true, if_true, Search.schemaModel,
    findPrismaModel]
  cases prismaModel.find? t with
  | none => rfl
  | some m => rfl

/-- A search ends with the excerpts of the category. It follows blocks from first lines of these
only. -/
theorem search_eq_find (c : Category) (path t : Text) :
    (search c path t).result = .ok (find c path t) ∧
      ∀ start ∈ (search c path t).trace, ∃ e ∈ find c path t, start = e.startLine - 1 := by
  have hfollowed : ∀ found : List Excerpt, ∀ start ∈ found.map (·.startLine - 1),
      ∃ e ∈ found, start = e.startLine - 1 := by
    intro found start hstart
    obtain ⟨e, he, rfl⟩ := List.mem_map.1 hstart
    exact ⟨e, he, rfl⟩
  cases c with
  | component | test | config | util => exact ⟨rfl, by simp [search]⟩
  | function =>
      rw [search_function]
      exact ⟨rfl, hfollowed _⟩
  | api =>
      rw [search_api]
      exact ⟨rfl, by simp⟩
  | model =>
      by_cases h : Language.ofPath path = "prisma".toList
      · rw [search_model_of_schema h]
        exact ⟨rfl, hfollowed _⟩
      · have hsearch : search model path t = pure (find model path t) := by
          simp only [search, find, beq_iff_eq, h, if_false]
        rw [hsearch]
        exact ⟨rfl, by simp⟩

/-- Whatever a file holds, the search for a category ends with a list of excerpts. Every block is
followed from a line of the file, and every excerpt that is found has a score under the names of its
tier and its category. -/
theorem search_ends_well (c : Category) (path t : Text) :
    (c.search path t).result = .ok (c.find path t) ∧
      (∀ start ∈ (c.search path t).trace, start < (Text.lines t).length) ∧
      ∀ e ∈ c.find path t,
        Excerpt.scoreByName? e.complexity.name e.tags.length e.code e.category.name =
          some e.score := by
  obtain ⟨hresult, htrace⟩ := search_eq_find c path t
  refine ⟨hresult, ?_, ?_⟩
  · intro start hstart
    obtain ⟨e, he, rfl⟩ := htrace start hstart
    have hrange : e.IsRangeOf t := (shown_of_mem_find he).isRange
    have hone := hrange.one_le_start
    have hle := hrange.start_le_end
    have hend := hrange.end_le
    omega
  · intro e _
    simp [Excerpt.scoreByName?, Tier.ofName?_name, Excerpt.score, weightOf, ofName?_name]

/-- A schema with one model. -/
def userSchema : Text := "model User \x7b\n  id Int\n\x7d\n"

/-- The block of a model is followed from its line, and the model has a score. -/
theorem search_of_userSchema :
    (search model "schema.prisma" userSchema).trace = [0] ∧ 0 < (Text.lines userSchema).length ∧
      ∃ e ∈ find model "schema.prisma" userSchema,
        (search model "schema.prisma" userSchema).result = .ok [e] ∧
        Excerpt.scoreByName? e.complexity.name e.tags.length e.code e.category.name =
          some e.score := by
  obtain ⟨hresult, hstarts, hscores⟩ := search_ends_well model "schema.prisma" userSchema
  have htrace : (search model "schema.prisma" userSchema).trace = [0] := by decide +kernel
  have hlength : (find model "schema.prisma" userSchema).length = 1 := by decide +kernel
  obtain ⟨e, he⟩ := List.length_eq_one_iff.1 hlength
  have hmem : e ∈ find model "schema.prisma" userSchema := he ▸ List.mem_cons_self
  have hstart : 0 ∈ (search model "schema.prisma" userSchema).trace := htrace ▸ List.mem_cons_self
  exact ⟨htrace, hstarts 0 hstart, e, hmem, he ▸ hresult, hscores e hmem⟩

end Category
end CodeSurvey
