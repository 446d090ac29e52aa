import CodeSurvey.Proofs.Excerpt.Picking
import CodeSurvey.Proofs.Regex.Place
import CodeSurvey.Proofs.Source.Block

/-!
# Excerpts as ranges of lines

An excerpt names a range of lines of its file and holds exactly these lines. Each category computes
its range in its own way, from a match, from a block or from the beginning of the file, and clamps
it to the file; whichever way it goes, the range is one of the file, and where a match started the
excerpt the line of that match is in it.

## Main definitions

* `Excerpt.IsRangeOf e t`: the excerpt `e` is a range of lines of the text `t`.
* `Excerpt.HoldsLineOf e t n`: the range of `e` holds the line of the character at offset `n`.
* `Category.Origin`: what an excerpt was made for, and where that stands in the file.
-/

namespace CodeSurvey

open Regex

namespace Excerpt

/-- The excerpt is a range of lines of the text, taken as it stands. -/
structure IsRangeOf (e : Excerpt) (t : Text) : Prop where
  one_le_start : 1 ≤ e.startLine
  start_le_end : e.startLine ≤ e.endLine
  end_le : e.endLine ≤ (Text.lines t).length
  code_eq : e.code = Text.unlines
    (((Text.lines t).drop (e.startLine - 1)).take (e.endLine + 1 - e.startLine))
  code_infix : e.code <:+: t
  length_lines_code : (Text.lines e.code).length = e.endLine - e.startLine + 1

/-- The range of the excerpt holds the line on which the character at an offset stands. -/
def HoldsLineOf (e : Excerpt) (t : Text) (offset : Nat) : Prop :=
  e.startLine ≤ lineOfOffset t offset + 1 ∧ lineOfOffset t offset + 1 ≤ e.endLine

section Build

variable (path : Text) (ls : List Text) (first last : Nat) (label : Label)
  (tags : Option (List Text))

@[simp] theorem startLine_build : (build path ls first last label tags).startLine = first := rfl
@[simp] theorem endLine_build :
    (build path ls first last label tags).endLine = max first last := rfl
@[simp] theorem code_build :
    (build path ls first last label tags).code = lineRange ls first (max first last) := rfl

end Build

/-- Building from lines of the text that are in order gives a range of the text. -/
theorem isRangeOf_build {path t : Text} {first last : Nat} (h₁ : 1 ≤ first) (h₂ : first ≤ last)
    (h₃ : last ≤ (Text.lines t).length) (label : Label) (tags : Option (List Text)) :
    (build path (Text.lines t) first last label tags).IsRangeOf t := by
  have hmax : max first last = last := by omega
  let part := ((Text.lines t).drop (first - 1)).take (last + 1 - first)
  have hcode : (build path (Text.lines t) first last label tags).code = Text.unlines part := by
    rw [code_build, hmax, lineRange, take_drop_of_range _ h₁]
  have hlength : part.length = last - first + 1 := by
    simp only [part, List.length_take, List.length_drop]
    omega
  have hinfix : part <:+: Text.lines t :=
    (List.take_prefix _ _).isInfix.trans (List.drop_suffix _ _).isInfix
  have hne : part ≠ [] := by
    intro hnil
    simp [hnil] at hlength
  refine ⟨h₁, Nat.le_max_left _ _, ?_, ?_, ?_, ?_⟩
  · simpa [hmax] using h₃
  · rw [hcode]
    simp only [startLine_build, endLine_build, hmax, part]
  · rw [hcode]
    exact Text.unlines_infix hinfix hne
  · rw [hcode, Text.lines_unlines_of_infix hinfix hne, hlength]
    simp [hmax]

end Excerpt

namespace Category

section Blocks

variable (path : Text) (ls : List Text) (line : Nat) (name : Text) (stop : Nat)

@[simp] theorem startLine_functionExcerpt :
    (functionExcerpt path ls line name stop).startLine = line + 1 := rfl
@[simp] theorem endLine_functionExcerpt :
    (functionExcerpt path ls line name stop).endLine = max (line + 1) stop := rfl
@[simp] theorem startLine_apiExcerpt : (apiExcerpt path ls line).startLine = line - 5 + 1 := rfl
@[simp] theorem endLine_apiExcerpt :
    (apiExcerpt path ls line).endLine = max (line - 5 + 1) (min ls.length (line + 30)) := rfl
@[simp] theorem startLine_schemaModelExcerpt :
    (schemaModelExcerpt path ls line name stop).startLine = line + 1 := rfl
@[simp] theorem endLine_schemaModelExcerpt :
    (schemaModelExcerpt path ls line name stop).endLine = max (line + 1) stop := rfl

end Blocks

/-! ## Where excerpts come from -/

open Finder

/-- What an excerpt of a category was made for, with the offset at which that stands in the file: a
match of the category's expressions, or the name in the definition of a Python function. Tests and
configuration files are shown from their beginning, whatever they hold. -/
inductive Origin (path t : Text) : Category → Excerpt → (offset : Nat) → (found : Text) → Prop
  | component {e : Excerpt} {m : Match}
      (find : (if Language.ofPath path == "vue".toList then vueComponent
        else reactComponent).find? t = some m) :
      Origin path t .component e m.start m.text
  | pythonFunction {e : Excerpt} {m : Match} {g : Capture} (python : isPython path = true)
      (mem : m ∈ pythonFunction.findAll t) (group : m.group? 1 = some g)
      (id_eq : e.id = "function-".toList ++ path ++ '-' :: g.text)
      (start_eq : e.startLine = lineOfOffset t g.start + 1) :
      Origin path t .function e g.start g.text
  | scriptFunction {e : Excerpt} {r : Regex} {m : Match} (script : isPython path = false)
      (form : r ∈ scriptFunctions) (mem : m ∈ r.findAll t)
      (id_eq : e.id = "function-".toList ++ path ++ '-' :: m.groupText 1)
      (start_eq : e.startLine = lineOfOffset t m.start + 1) :
      Origin path t .function e m.start m.text
  | api {e : Excerpt} {r : Regex} {m : Match} (form : r ∈ apis) (find : r.find? t = some m)
      (least : ∀ r' ∈ apis, ∀ m', r'.find? t = some m' → m.start ≤ m'.start) :
      Origin path t .api e m.start m.text
  | schemaModel {e : Excerpt} {m : Match} (schema : Language.ofPath path = "prisma".toList)
      (find : prismaModel.find? t = some m) :
      Origin path t .model e m.start m.text
  | pythonModel {e : Excerpt} {m : Match} (python : isPython path = true)
      (find : pythonModel.find? t = some m) :
      Origin path t .model e m.start m.text
  | scriptModel {e : Excerpt} {r : Regex} {kind : Text} {m : Match} {before : List (Regex × Text)}
      {after : List (Regex × Text)} (script : isPython path = false)
      (schema : Language.ofPath path ≠ "prisma".toList)
      (forms : scriptModels = before ++ (r, kind) :: after) (find : r.find? t = some m)
      (first : ∀ x ∈ before, x.1.find? t = none) :
      Origin path t .model e m.start m.text
  | util {e : Excerpt} {m : Match}
      (find : (if isPython path then pythonUtil else scriptUtil).find? t = some m) :
      Origin path t .util e m.start m.text

/-- What an excerpt was made for stands in the file at its offset. -/
theorem Origin.prefix_found {path t : Text} {c : Category} {e : Excerpt} {offset : Nat}
    {found : Text} (h : Origin path t c e offset found) : found <+: t.drop offset := by
  cases h with
  | component find => exact (inText_of_find? find).prefix_text
  | pythonFunction _ mem group => exact (inText_of_mem_findAll mem).prefix_group group
  | scriptFunction _ _ mem => exact (inText_of_mem_findAll mem).prefix_text
  | api _ find => exact (inText_of_find? find).prefix_text
  | schemaModel _ find => exact (inText_of_find? find).prefix_text
  | pythonModel _ find => exact (inText_of_find? find).prefix_text
  | scriptModel _ _ _ find => exact (inText_of_find? find).prefix_text
  | util find => exact (inText_of_find? find).prefix_text

/-- Whether the excerpts of a category are made for a match. -/
def followsMatch : Category → Bool
  | test | config => false
  | _ => true

/-- What holds of every excerpt that a category finds in a file. -/
structure Shown (c : Category) (path t : Text) (e : Excerpt) : Prop where
  path_eq : e.path = path
  isRange : e.IsRangeOf t
  origin : c.followsMatch = true → ∃ offset found, Origin path t c e offset found ∧
    e.HoldsLineOf t offset

/-! ## The finders -/

variable {path t : Text} {e : Excerpt}

theorem shown_of_mem_findComponent (h : e ∈ findComponent path t) : Shown component path t e := by
  simp only [findComponent] at h
  split at h
  · simp at h
  · rename_i m hm
    obtain rfl := List.mem_singleton.1 h
    have hline := lineOfOffset_lt t m.start
    refine ⟨rfl, Excerpt.isRangeOf_build (Nat.le_refl _) (by omega) (by omega) _ _, fun _ => ?_⟩
    refine ⟨m.start, m.text, .component hm, ?_, ?_⟩
    · simp
    · simp only [Excerpt.endLine_build]
      omega

theorem shown_of_mem_findTest (h : e ∈ findTest path t) : Shown test path t e := by
  simp only [findTest] at h
  have hne := List.length_pos_iff.2 (Text.lines_ne_nil t)
  split at h
  · simp at h
  · obtain rfl := List.mem_singleton.1 h
    exact ⟨rfl, Excerpt.isRangeOf_build (Nat.le_refl _) (by omega) (by omega) _ _,
      by simp [followsMatch]⟩

theorem shown_of_mem_findConfig (h : e ∈ findConfig path t) : Shown config path t e := by
  have hne := List.length_pos_iff.2 (Text.lines_ne_nil t)
  obtain rfl := List.mem_singleton.1 h
  exact ⟨rfl, Excerpt.isRangeOf_build (Nat.le_refl _) (by omega) (by omega) _ _,
    by simp [followsMatch]⟩

/-- The least start among the first matches of the route handlers is the start of one of them. -/
theorem exists_api_of_min {offset : Nat}
    (h : (apiOffsets t).min? = some offset) :
    ∃ r ∈ apis, ∃ m, r.find? t = some m ∧ m.start = offset ∧
      ∀ r' ∈ apis, ∀ m', r'.find? t = some m' → m.start ≤ m'.start := by
  obtain ⟨hmem, hleast⟩ := List.min?_eq_some_iff.1 h
  obtain ⟨m, hm, rfl⟩ := List.mem_map.1 hmem
  obtain ⟨r, hr, hfind⟩ := List.mem_filterMap.1 hm
  refine ⟨r, hr, m, hfind, rfl, ?_⟩
  intro r' hr' m' hfind'
  exact hleast _ (List.mem_map_of_mem (List.mem_filterMap.2 ⟨r', hr', hfind'⟩))

theorem shown_of_mem_findApi (h : e ∈ findApi path t) : Shown api path t e := by
  simp only [findApi] at h
  split at h
  · simp at h
  · rename_i offset hoffset
    obtain rfl := List.mem_singleton.1 h
    obtain ⟨r, hr, m, hfind, rfl, hleast⟩ := exists_api_of_min hoffset
    have hline := lineOfOffset_lt t m.start
    refine ⟨rfl, Excerpt.isRangeOf_build (by omega) (by omega) (by omega) _ _, fun _ => ?_⟩
    refine ⟨m.start, m.text, .api hr hfind hleast, ?_, ?_⟩
    · simp only [startLine_apiExcerpt]
      omega
    · simp only [endLine_apiExcerpt]
      omega

theorem shown_of_mem_findPrismaModel (hschema : Language.ofPath path = "prisma".toList)
    (h : e ∈ findPrismaModel path t) : Shown model path t e := by
  simp only [findPrismaModel] at h
  split at h
  · simp at h
  · rename_i m hm
    obtain rfl := List.mem_singleton.1 h
    obtain ⟨hlt, hle⟩ := braceLineEnd_bounds (lineOfOffset_lt t m.start)
    refine ⟨rfl, Excerpt.isRangeOf_build (by omega) (by omega) hle _ _, fun _ => ?_⟩
    refine ⟨m.start, m.text, .schemaModel hschema hm, ?_, ?_⟩
    · simp
    · simp only [endLine_schemaModelExcerpt]
      omega

/-- The first form of a model that occurs is the one that an excerpt is made for. -/
theorem origin_of_forms {m : Match} {kind : Text}
    (hschema : Language.ofPath path ≠ "prisma".toList)
    (h : (if isPython path then [(pythonModel, "Class".toList)] else scriptModels).findSome?
      (fun x => (x.1.find? t).map fun m => (m, x.2)) = some (m, kind)) :
    Origin path t model e m.start m.text := by
  obtain ⟨before, ⟨r, kind'⟩, after, hforms, hfind, hbefore⟩ := List.findSome?_eq_some_iff.1 h
  obtain ⟨m', hm, hpair⟩ := Option.map_eq_some_iff.1 hfind
  obtain ⟨rfl, rfl⟩ := Prod.mk.inj hpair
  by_cases hp : isPython path = true
  · rw [if_pos hp] at hforms
    have hmem : (r, kind') ∈ [(pythonModel, "Class".toList)] :=
      hforms ▸ List.mem_append_right _ List.mem_cons_self
    obtain ⟨rfl, -⟩ := Prod.mk.inj (List.mem_singleton.1 hmem)
    exact .pythonModel hp hm
  · rw [if_neg hp] at hforms
    refine .scriptModel (by simpa using hp) hschema hforms hm ?_
    intro x hx
    exact Option.map_eq_none_iff.1 (hbefore x hx)

theorem shown_of_mem_findModel (h : e ∈ findModel path t) : Shown model path t e := by
  simp only [findModel] at h
  split at h
  · rename_i hschema
    exact shown_of_mem_findPrismaModel (by simpa using hschema) h
  · rename_i hschema
    split at h
    · simp at h
    · rename_i m kind hforms
      obtain rfl := List.mem_singleton.1 h
      have hline := lineOfOffset_lt t m.start
      refine ⟨rfl, Excerpt.isRangeOf_build (by omega) (by omega) (by omega) _ _, fun _ => ?_⟩
      refine ⟨m.start, m.text, origin_of_forms (by simpa using hschema) hforms, ?_, ?_⟩
      · exact Nat.le_refl _
      · simp only [Excerpt.endLine_build]
        omega

theorem shown_of_mem_findUtil (h : e ∈ findUtil path t) : Shown util path t e := by
  simp only [findUtil] at h
  split at h
  · simp at h
  · rename_i m hm
    obtain rfl := List.mem_singleton.1 h
    have hline := lineOfOffset_lt t m.start
    refine ⟨rfl, Excerpt.isRangeOf_build (by omega) (by omega) (by omega) _ _, fun _ => ?_⟩
    refine ⟨m.start, m.text, .util hm, ?_, ?_⟩
    · simp only [Excerpt.startLine_build]
      omega
    · simp only [Excerpt.endLine_build]
      omega

/-! ## Functions -/

/-- An excerpt that begins on the line of a declared function and is called after it was made for
that function. -/
theorem exists_origin_of_declared {name : Text} {offset : Nat}
    (h : (name, offset) ∈ declaredFunctions (isPython path) t)
    (hid : e.id = "function-".toList ++ path ++ '-' :: name)
    (hstart : e.startLine = lineOfOffset t offset + 1) :
    ∃ found, Origin path t function e offset found := by
  by_cases hp : isPython path = true
  · simp only [declaredFunctions, hp, if_true] at h
    obtain ⟨m, hm, hpair⟩ := List.mem_filterMap.1 h
    obtain ⟨g, hg, hpair⟩ := Option.map_eq_some_iff.1 hpair
    obtain ⟨rfl, rfl⟩ := Prod.mk.inj hpair
    exact ⟨g.text, .pythonFunction hp hm hg hid hstart⟩
  · simp only [declaredFunctions, hp, Bool.false_eq_true, if_false] at h
    obtain ⟨r, hr, h⟩ := List.mem_flatMap.1 h
    obtain ⟨m, hm, hpair⟩ := List.mem_map.1 h
    obtain ⟨rfl, rfl⟩ := Prod.mk.inj hpair
    exact ⟨m.text, .scriptFunction (by simpa using hp) hr hm hid hstart⟩

/-- Both ways to find the end of a block leave at least its first line. -/
theorem functionEnd_bounds (python : Bool) {ls : List Text} {line : Nat} (h : line < ls.length) :
    line < functionEnd python ls line ∧ functionEnd python ls line ≤ ls.length := by
  cases python with
  | true =>
      obtain ⟨stop, hstop, hlt, hle⟩ := indentEnd?_bounds h blockLimit
      simp only [functionEnd, hstop, if_true, Option.getD_some]
      exact ⟨hlt, hle⟩
  | false => exact braceEnd_bounds h blockLimit

theorem shown_of_mem_findFunctions (h : e ∈ findFunctions path t) : Shown function path t e := by
  simp only [findFunctions] at h
  obtain ⟨⟨line, name⟩, hpick, rfl⟩ := List.mem_map.1 h
  obtain ⟨offset, hdeclared, rfl, -⟩ := (picked_pickFunctions t _).worthy line name hpick
  obtain ⟨hlt, hle⟩ := functionEnd_bounds (isPython path) (lineOfOffset_lt t offset)
  refine ⟨rfl, Excerpt.isRangeOf_build (by omega) (by omega) hle _ _, fun _ => ?_⟩
  obtain ⟨found, horigin⟩ := exists_origin_of_declared
    (e := functionExcerpt path (Text.lines t) (lineOfOffset t offset) name
      (functionEnd (isPython path) (Text.lines t) (lineOfOffset t offset))) hdeclared rfl rfl
  refine ⟨offset, found, horigin, ?_, ?_⟩
  · simp
  · simp only [endLine_functionExcerpt]
    omega

/-- Every category shows ranges of the file, and the line of what it was led by. -/
theorem shown_of_mem_find {c : Category} (h : e ∈ c.find path t) : Shown c path t e := by
  cases c with
  | component => exact shown_of_mem_findComponent h
  | function => exact shown_of_mem_findFunctions h
  | test => exact shown_of_mem_findTest h
  | config => exact shown_of_mem_findConfig h
  | api => exact shown_of_mem_findApi h
  | model => exact shown_of_mem_findModel h
  | util => exact shown_of_mem_findUtil h

end Category
end CodeSurvey
