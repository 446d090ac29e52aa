import CodeSurvey.Proofs.Excerpt.Ranking
import CodeSurvey.Proofs.Glob.Cut
import CodeSurvey.Proofs.Path.Stem
import CodeSurvey.Proofs.Regex.Groups

/-!
# Identifiers of excerpts

An identifier is glued from the category, the path and, where there is one, a name, with hyphens
between them. The names of categories have no hyphens, and neither have the names that the
expressions find, so that the parts can be told from the whole. The component of a Vue file is
called after its file, and the names of files may have hyphens; such a name cannot be told from the
end of a path. And functions of one file that have one name have one identifier.

## Main definitions

* `Category.Naming path e c`: how the category `c` calls the excerpt `e` of a file.
* `Excerpt.Namesakes`, `Excerpt.RunsInto`: the excerpts that have one identifier.
-/

namespace CodeSurvey

open Regex Finder

/-! ## Names that are found -/

/-- The declarations of functions in scripts have names without hyphens. -/
theorem Finder.avoids_groups_scriptFunctions :
    ∀ r ∈ scriptFunctions, ∀ x ∈ r.groups, x.2.avoids '-' = true := by decide

/-- So have the declarations of types. -/
theorem Finder.avoids_groups_scriptModels :
    ∀ form ∈ scriptModels, ∀ x ∈ form.1.groups, x.2.avoids '-' = true := by decide

/-- A component that is found in a script has a name. -/
theorem Finder.groupText_reactComponent_ne_nil {t : Text} {m : Match}
    (h : reactComponent.Finds t m) : m.groupText 1 ≠ [] :=
  h.groupText_ne_nil (by decide) (by decide)

namespace Category

/-- The language that gives components the names of their files. -/
def isVue (path : Text) : Bool := Language.ofPath path == "vue".toList

/-- How an excerpt of a file is called: by its path alone, by its path and a name that was found, or
by its path and the stem of its path. -/
inductive Naming (path : Text) (e : Excerpt) : Category → Prop
  | path {c : Category} (bare : c = test ∨ c = config ∨ c = api)
      (id_eq : e.id = c.name ++ '-' :: path) : Naming path e c
  | symbol {c : Category} {symbol : Text} (named : c ≠ test ∧ c ≠ config ∧ c ≠ api)
      (plain : '-' ∉ symbol) (id_eq : e.id = c.name ++ '-' :: (path ++ '-' :: symbol))
      (function_title : c = function → e.title = symbol ++ " Function".toList)
      (component_title : c = component → isVue path = false ∧
        e.title = symbol ++ " Component".toList) : Naming path e c
  | stem (vue : isVue path = true)
      (id_eq : e.id = component.name ++ '-' :: (path ++ '-' :: Path.stem path)) :
      Naming path e component

variable {c : Category} {path t : Text} {e : Excerpt}

/-- A declared function has a name without hyphens. -/
theorem hyphen_not_mem_of_declared {python : Bool} {name : Text} {offset : Nat}
    (h : (name, offset) ∈ declaredFunctions python t) : '-' ∉ name := by
  cases python with
  | true =>
      obtain ⟨m, hm, hpair⟩ := List.mem_filterMap.1 h
      obtain ⟨g, hg, hpair⟩ := Option.map_eq_some_iff.1 hpair
      obtain ⟨rfl, rfl⟩ := Prod.mk.inj hpair
      have hplain : '-' ∉ m.groupText 1 := (finds_of_mem_findAll hm).not_mem_groupText (by decide) 1
      rwa [Match.groupText, hg] at hplain
  | false =>
      obtain ⟨r, hr, h⟩ := List.mem_flatMap.1 h
      obtain ⟨m, hm, hpair⟩ := List.mem_map.1 h
      obtain ⟨rfl, rfl⟩ := Prod.mk.inj hpair
      exact (finds_of_mem_findAll hm).not_mem_groupText (avoids_groups_scriptFunctions r hr) 1

theorem naming_of_mem_findComponent (h : e ∈ findComponent path t) : Naming path e component := by
  simp only [findComponent] at h
  split at h
  · simp at h
  · rename_i m hm
    obtain rfl := List.mem_singleton.1 h
    by_cases hvue : isVue path = true
    · refine .stem hvue ?_
      rw [isVue] at hvue
      simp only [Excerpt.build, hvue, Bool.true_or, if_true]
      exact List.append_assoc _ _ _
    · rw [Bool.not_eq_true] at hvue
      have hlanguage := hvue
      rw [isVue] at hlanguage
      rw [hlanguage, if_neg (by simp)] at hm
      have hfinds : reactComponent.Finds t m := finds_of_find? hm
      have hsymbol : (m.groupText 1).isEmpty = false := by
        simpa using groupText_reactComponent_ne_nil hfinds
      simp only [hlanguage, hsymbol, Bool.or_self, Bool.false_eq_true, if_false]
      refine .symbol (by simp) (hfinds.not_mem_groupText (by decide) 1) ?_
        (fun h => absurd h (by decide)) ?_
      · exact List.append_assoc _ _ _
      · exact fun _ => ⟨hvue, rfl⟩

theorem naming_of_mem_findFunctions (h : e ∈ findFunctions path t) : Naming path e function := by
  obtain ⟨⟨line, symbol⟩, hpick, rfl⟩ := List.mem_map.1 h
  obtain ⟨offset, hdeclared, -⟩ := (picked_pickFunctions t _).worthy line symbol hpick
  refine .symbol (by simp) (hyphen_not_mem_of_declared hdeclared) ?_ (fun _ => rfl)
    (fun h => absurd h (by decide))
  exact List.append_assoc _ _ _

theorem naming_of_mem_findModel (h : e ∈ findModel path t) : Naming path e model := by
  simp only [findModel, findPrismaModel] at h
  split at h
  · split at h
    · simp at h
    · rename_i m hm
      obtain rfl := List.mem_singleton.1 h
      have hplain : '-' ∉ m.groupText 1 := (finds_of_find? hm).not_mem_groupText (by decide) 1
      refine .symbol (by simp) hplain ?_ (fun h => absurd h (by decide))
        (fun h => absurd h (by decide))
      exact List.append_assoc _ _ _
  · split at h
    · simp at h
    · rename_i m kind hforms
      obtain rfl := List.mem_singleton.1 h
      obtain ⟨form, hform, hfind⟩ := List.exists_of_findSome?_eq_some hforms
      obtain ⟨m', hm, hpair⟩ := Option.map_eq_some_iff.1 hfind
      obtain ⟨rfl, -⟩ := Prod.mk.inj hpair
      have havoids : ∀ x ∈ form.1.groups, x.2.avoids '-' = true := by
        split at hform
        · rw [List.mem_singleton.1 hform]
          decide
        · exact avoids_groups_scriptModels form hform
      have hplain : '-' ∉ m'.groupText 1 := (finds_of_find? hm).not_mem_groupText havoids 1
      refine .symbol (by simp) hplain ?_ (fun h => absurd h (by decide))
        (fun h => absurd h (by decide))
      exact List.append_assoc _ _ _

theorem naming_of_mem_findUtil (h : e ∈ findUtil path t) : Naming path e util := by
  simp only [findUtil] at h
  split at h
  · simp at h
  · rename_i m hm
    obtain rfl := List.mem_singleton.1 h
    have havoids : ∀ x ∈ (if isPython path then pythonUtil else scriptUtil).groups,
        x.2.avoids '-' = true := by
      split <;> decide
    have hplain : '-' ∉ m.groupText 1 := (finds_of_find? hm).not_mem_groupText havoids 1
    refine .symbol (by simp) hplain ?_ (fun h => absurd h (by decide))
      (fun h => absurd h (by decide))
    exact List.append_assoc _ _ _

/-- Every excerpt that is found in a file is called in one of the ways of its category. -/
theorem naming_of_mem_find (h : e ∈ c.find path t) : Naming path e c := by
  cases c with
  | component => exact naming_of_mem_findComponent h
  | function => exact naming_of_mem_findFunctions h
  | model => exact naming_of_mem_findModel h
  | util => exact naming_of_mem_findUtil h
  | config =>
      rw [List.mem_singleton.1 h]
      exact .path (by simp) rfl
  | test | api =>
      simp only [find, findTest, findApi] at h
      split at h
      · simp at h
      · rw [List.mem_singleton.1 h]
        exact .path (by simp) rfl

/-! ## Vue files -/

theorem suffix_ne_nil_of_isVue (h : isVue path = true) : Path.suffix path ≠ [] := by
  intro hnil
  rw [isVue, Language.ofPath, Path.lowerSuffix, hnil] at h
  revert h
  decide

/-- The files that components are sought in end in letters, or in a newline after them. -/
theorem exists_last_of_mem_candidates {files : List Text} (h : path ∈ component.candidates files) :
    ∃ c, path.getLast? = some c ∧ c ≠ '/' ∧ c ≠ '.' := by
  have hglobs : ∀ glob ∈ component.included, ∃ spellings,
      (PathGlob.read glob).getLast? = some (.choice spellings) ∧
        ∀ s ∈ spellings, s ≠ [] ∧ '/' ∉ s ∧ '.' ∉ s := by
    intro glob hglob
    simp only [included, List.mem_cons, List.not_mem_nil, or_false] at hglob
    rcases hglob with rfl | rfl | rfl | rfl
    all_goals exact ⟨_, rfl, by decide⟩
  have hcovers := (Bool.and_eq_true _ _ ▸ (List.mem_filter.1 h).2).1
  obtain ⟨pieces, hpieces, hcovers⟩ := List.any_eq_true.1 hcovers
  obtain ⟨glob, hglob, rfl⟩ := List.mem_map.1 hpieces
  obtain ⟨spellings, hlast, hspellings⟩ := hglobs glob hglob
  obtain ⟨before, hread⟩ := List.getLast?_eq_some_iff.1 hlast
  rw [hread] at hcovers
  obtain ⟨s, hs, hsuffix⟩ := PathGlob.exists_spelling_of_covers_concat hcovers
  obtain ⟨hne, hslash, hpoint⟩ := hspellings s hs
  rcases hsuffix with ⟨front, rfl⟩ | ⟨front, rfl⟩
  · refine ⟨s.getLast hne, ?_, fun heq => hslash ?_, fun heq => hpoint ?_⟩
    · rw [List.getLast?_append_of_ne_nil _ hne, List.getLast?_eq_some_getLast hne]
    · exact heq ▸ List.getLast_mem hne
    · exact heq ▸ List.getLast_mem hne
  · exact ⟨'\n', by simp, by decide, by decide⟩

/-- What a longer path has more cannot stand in the stem of the shorter, which is no longer. -/
theorem eq_nil_of_stem_eq {files : List Text} {x : Text} (hp : path ∈ component.candidates files)
    (hvue : isVue path = true)
    (h : '-' :: Path.stem path = x ++ '-' :: Path.stem (path ++ x)) : x = [] := by
  have hslash : '/' ∉ x := by
    intro hmem
    have hcons : '/' ∈ '-' :: Path.stem path := h ▸ List.mem_append_left _ hmem
    rcases List.mem_cons.1 hcons with hhyphen | hstem
    · exact absurd hhyphen (by decide)
    · exact Path.slash_not_mem_stem path hstem
  obtain ⟨c, hlast, hcslash, hcpoint⟩ := exists_last_of_mem_candidates hp
  have hle := Path.length_stem_le hlast hcslash hcpoint (suffix_ne_nil_of_isVue hvue) hslash
  have hlength := congrArg List.length h
  rw [List.length_append, List.length_cons, List.length_cons] at hlength
  exact List.length_eq_zero_iff.1 (by omega)

/-- The path of a Vue file can be read off the identifier that its component has. -/
theorem path_eq_of_append_stem_eq {files : List Text} {p p' : Text}
    (hp : p ∈ component.candidates files) (hp' : p' ∈ component.candidates files)
    (hvue : isVue p = true) (hvue' : isVue p' = true)
    (h : p ++ '-' :: Path.stem p = p' ++ '-' :: Path.stem p') : p = p' := by
  rcases List.append_eq_append_iff.1 h with ⟨x, rfl, hrest⟩ | ⟨x, rfl, hrest⟩
  · rw [eq_nil_of_stem_eq hp hvue hrest, List.append_nil]
  · rw [eq_nil_of_stem_eq hp' hvue' hrest, List.append_nil]

/-! ## Telling excerpts apart -/

theorem Naming.exists_symbol (h : Naming path e function) : ∃ symbol,
    e.id = function.name ++ '-' :: (path ++ '-' :: symbol) ∧
      e.title = symbol ++ " Function".toList := by
  cases h with
  | path bare _ => simp at bare
  | symbol _ _ id_eq title _ => exact ⟨_, id_eq, title rfl⟩

theorem Naming.id_eq_of_isVue (h : Naming path e component) (vue : isVue path = true) :
    e.id = component.name ++ '-' :: (path ++ '-' :: Path.stem path) := by
  cases h with
  | path bare _ => simp at bare
  | symbol _ _ _ _ title => simp [(title rfl).1] at vue
  | stem _ id_eq => exact id_eq

theorem Naming.exists_symbol_of_script (h : Naming path e component) (script : isVue path = false) :
    ∃ symbol, e.id = component.name ++ '-' :: (path ++ '-' :: symbol) ∧
      e.title = symbol ++ " Component".toList := by
  cases h with
  | path bare _ => simp at bare
  | symbol _ _ id_eq _ title => exact ⟨_, id_eq, (title rfl).2⟩
  | stem vue _ => simp [script] at vue

theorem hyphen_not_mem_name (c : Category) : '-' ∉ c.name := by cases c <;> decide

theorem name_injective {c c' : Category} (h : c.name = c'.name) : c = c' := by
  have hname : ofName? c.name = ofName? c'.name := by rw [h]
  rw [ofName?_name, ofName?_name] at hname
  exact Option.some.inj hname

/-- An identifier begins with the name of the category. -/
theorem Naming.exists_id_eq (h : Naming path e c) : ∃ rest, e.id = c.name ++ '-' :: rest := by
  cases h with
  | path _ id_eq => exact ⟨_, id_eq⟩
  | symbol _ _ id_eq _ _ => exact ⟨_, id_eq⟩
  | stem _ id_eq => exact ⟨_, id_eq⟩

theorem Naming.category_eq {c' : Category} {path' : Text} {e' : Excerpt} (h : Naming path e c)
    (h' : Naming path' e' c') (hid : e.id = e'.id) : c = c' := by
  obtain ⟨rest, hrest⟩ := h.exists_id_eq
  obtain ⟨rest', hrest'⟩ := h'.exists_id_eq
  have hname : c.name = c'.name :=
    (Text.eq_of_separator_append_eq (hyphen_not_mem_name c) (hyphen_not_mem_name c')
      (hrest ▸ hrest' ▸ hid)).1
  exact name_injective hname

end Category

namespace Excerpt

/-- Functions of one file that have one name. -/
structure Namesakes (e e' : Excerpt) : Prop where
  functions : e.category = .function ∧ e'.category = .function
  path_eq : e.path = e'.path
  title_eq : e.title = e'.title

/-- The component of a Vue file and the component of a script whose path is that of the Vue file, a
hyphen and more, where the stem of the Vue file goes on from there to the name of the script's
component. -/
structure RunsInto (e e' : Excerpt) : Prop where
  components : e.category = .component ∧ e'.category = .component
  vue : Category.isVue e.path = true
  script : Category.isVue e'.path = false
  divided : ∃ rest symbol, e'.path = e.path ++ '-' :: rest ∧
    Path.stem e.path = rest ++ '-' :: symbol ∧ e'.title = symbol ++ " Component".toList

variable {c c' : Category} {p p' t t' : Text} {e e' : Excerpt}

theorem Namesakes.id_eq (h : e.Namesakes e') (he : e ∈ c.find p t) (he' : e' ∈ c'.find p' t') :
    e.id = e'.id := by
  have hpath : p = p' := (path_of_mem_find he).symm.trans (h.path_eq.trans (path_of_mem_find he'))
  have hc : c = .function := (Category.category_of_mem_find he).symm.trans h.functions.1
  have hc' : c' = .function := (Category.category_of_mem_find he').symm.trans h.functions.2
  subst hpath hc hc'
  obtain ⟨symbol, hid, htitle⟩ := (Category.naming_of_mem_find he).exists_symbol
  obtain ⟨symbol', hid', htitle'⟩ := (Category.naming_of_mem_find he').exists_symbol
  have hsymbol : symbol = symbol' :=
    List.append_cancel_right (htitle.symm.trans (h.title_eq.trans htitle'))
  rw [hid, hid', hsymbol]

theorem RunsInto.id_eq (h : e.RunsInto e') (he : e ∈ c.find p t) (he' : e' ∈ c'.find p' t') :
    e.id = e'.id := by
  have hc : c = .component := (Category.category_of_mem_find he).symm.trans h.components.1
  have hc' : c' = .component := (Category.category_of_mem_find he').symm.trans h.components.2
  have hpath := path_of_mem_find he
  have hpath' := path_of_mem_find he'
  subst hc hc' hpath hpath'
  obtain ⟨rest, symbol, hlonger, hstem, htitle⟩ := h.divided
  have hid := (Category.naming_of_mem_find he).id_eq_of_isVue h.vue
  obtain ⟨symbol', hid', htitle'⟩ :=
    (Category.naming_of_mem_find he').exists_symbol_of_script h.script
  have hsymbol : symbol = symbol' := List.append_cancel_right (htitle.symm.trans htitle')
  rw [hid, hid', hstem, hlonger, hsymbol]
  simp

/-- The stem of a Vue file goes on where its path runs into a longer one. -/
theorem runsInto_of_append_eq {symbol : Text} (he : e ∈ Category.find .component p t)
    (he' : e' ∈ Category.find .component p' t') (vue : Category.isVue p = true)
    (script : Category.isVue p' = false) (plain : '-' ∉ symbol)
    (htitle : e'.title = symbol ++ " Component".toList)
    (h : p ++ '-' :: Path.stem p = p' ++ '-' :: symbol) : e.RunsInto e' := by
  have hne : p ≠ p' := by
    rintro rfl
    simp [vue] at script
  obtain ⟨rest, hlonger, hstem⟩ := Text.exists_of_append_separator_eq plain hne h
  have hpath := path_of_mem_find he
  have hpath' := path_of_mem_find he'
  subst hpath hpath'
  exact ⟨⟨Category.category_of_mem_find he, Category.category_of_mem_find he'⟩, vue, script,
    rest, symbol, hlonger, hstem, htitle⟩

/-- Excerpts of a category that have one identifier are of one file, or one runs into the other. -/
theorem path_eq_or_runsInto {files : List Text} (hp : p ∈ c.candidates files)
    (hp' : p' ∈ c.candidates files) (he : e ∈ c.find p t) (he' : e' ∈ c.find p' t')
    (hid : e.id = e'.id) :
    p = p' ∧ (c = .function → e.title = e'.title) ∨ e.RunsInto e' ∨ e'.RunsInto e := by
  have hcancel : ∀ {x y : Text}, c.name ++ '-' :: x = c.name ++ '-' :: y → x = y := fun h =>
    (List.cons.inj (List.append_cancel_left h)).2
  cases Category.naming_of_mem_find he with
  | path bare id_eq =>
      cases Category.naming_of_mem_find he' with
      | path _ id_eq' =>
          refine .inl ⟨hcancel (id_eq ▸ id_eq' ▸ hid), ?_⟩
          rintro rfl
          simp at bare
      | symbol named _ _ _ _ => exact absurd bare (by simpa using named)
      | stem _ _ => simp at bare
  | symbol named plain id_eq title component_title =>
      cases Category.naming_of_mem_find he' with
      | path bare _ => exact absurd bare (by simpa using named)
      | symbol _ plain' id_eq' title' _ =>
          have hrest := hcancel (id_eq ▸ id_eq' ▸ hid)
          obtain rfl := Text.eq_of_append_separator_eq plain plain' hrest
          obtain ⟨-, rfl⟩ := List.cons.inj (List.append_cancel_left hrest)
          exact .inl ⟨rfl, fun hc => (title hc).trans (title' hc).symm⟩
      | stem vue' id_eq' =>
          have hrest := hcancel (id_eq ▸ id_eq' ▸ hid)
          obtain ⟨script, htitle⟩ := component_title rfl
          exact .inr (.inr (runsInto_of_append_eq he' he vue' script plain htitle hrest.symm))
  | stem vue id_eq =>
      cases Category.naming_of_mem_find he' with
      | path bare _ => simp at bare
      | stem vue' id_eq' =>
          have hrest := hcancel (id_eq ▸ id_eq' ▸ hid)
          exact .inl ⟨Category.path_eq_of_append_stem_eq hp hp' vue vue' hrest, nofun⟩
      | symbol _ plain' id_eq' _ component_title =>
          have hrest := hcancel (id_eq ▸ id_eq' ▸ hid)
          obtain ⟨script, htitle⟩ := component_title rfl
          exact .inr (.inl (runsInto_of_append_eq he he' vue script plain' htitle hrest))

end Excerpt

/-! ## Sets of excerpts -/

section Files

variable {s : Settings} {read : Text → Except ReadFailure Text} {files : List Text}
  {c c' : Category} {e e' : Excerpt}

/-- The excerpts of some file share their identifier just where they are namesakes or where one runs
into the other. -/
theorem id_eq_iff_of_mem_gatherExcerpts (he : e ∈ gatherExcerpts s read c files)
    (he' : e' ∈ gatherExcerpts s read c' files) :
    e.id = e'.id ↔ e = e' ∨ e.Namesakes e' ∨ e.RunsInto e' ∨ e'.RunsInto e := by
  obtain ⟨p, hp, t, ht, hfind⟩ := mem_gatherExcerpts.1 he
  obtain ⟨p', hp', t', ht', hfind'⟩ := mem_gatherExcerpts.1 he'
  constructor
  · intro hid
    obtain rfl := (Category.naming_of_mem_find hfind).category_eq
      (Category.naming_of_mem_find hfind') hid
    have hmem := (Text.upTo_sublist _ _).mem hp
    have hmem' := (Text.upTo_sublist _ _).mem hp'
    rcases Excerpt.path_eq_or_runsInto hmem hmem' hfind hfind' hid with ⟨rfl, htitle⟩ | hruns
    · obtain rfl := Except.ok.inj (ht.symm.trans ht')
      by_cases hc : c = .function
      · have hcategory := Category.category_of_mem_find hfind
        have hcategory' := Category.category_of_mem_find hfind'
        have hpath := (path_of_mem_find hfind).trans (path_of_mem_find hfind').symm
        exact .inr (.inl ⟨hc ▸ ⟨hcategory, hcategory'⟩, hpath, htitle hc⟩)
      · left
        have hlength := Category.length_find_le_one hc p t
        rcases heq : c.find p t with _ | ⟨e₀, _ | ⟨e₁, es⟩⟩
        · simp [heq] at hfind
        · rw [heq, List.mem_singleton] at hfind hfind'
          exact hfind.trans hfind'.symm
        · simp [heq] at hlength
    · exact .inr (.inr hruns)
  · rintro (rfl | hnames | hruns | hruns)
    · rfl
    · exact hnames.id_eq hfind hfind'
    · exact hruns.id_eq hfind hfind'
    · exact (hruns.id_eq hfind' hfind).symm

theorem category_of_mem_gatherExcerpts (h : e ∈ gatherExcerpts s read c files) :
    e.category = c := by
  obtain ⟨p, -, t, -, hfind⟩ := mem_gatherExcerpts.1 h
  exact Category.category_of_mem_find hfind

theorem nodup_selectExcerpts (hfiles : files.Nodup) : (selectExcerpts s read files c).Nodup := by
  by_cases hk : 0 < s.maxExamples
  · rw [selectExcerpts_eq_take hfiles hk]
    refine List.Nodup.sublist (List.take_sublist _ _) ?_
    rw [List.nodup_mergeSort]
    exact (nodup_keys_gatherExcerpts hfiles).of_map _
  · rw [selectExcerpts, if_pos (by omega)]
    exact List.nodup_nil

namespace ExcerptSet

theorem mem_all_select :
    e ∈ (select s read files).all ↔ ∃ c, e ∈ selectExcerpts s read files c := by
  simp only [all, select, get_ofCategories, List.mem_flatMap]
  constructor
  · rintro ⟨c, -, he⟩
    exact ⟨c, he⟩
  · rintro ⟨c, he⟩
    exact ⟨c, by cases c <;> decide, he⟩

theorem nodup_all_select (hfiles : files.Nodup) : (select s read files).all.Nodup := by
  rw [all, List.nodup_flatMap]
  constructor
  · intro c _
    rw [select, get_ofCategories]
    exact nodup_selectExcerpts hfiles
  · have hall : Category.all.Nodup := by decide
    refine hall.imp fun {c c'} hne e he he' => hne ?_
    rw [select, get_ofCategories] at he he'
    rw [← category_of_mem_gatherExcerpts (mem_gatherExcerpts_of_mem_select he),
      category_of_mem_gatherExcerpts (mem_gatherExcerpts_of_mem_select he')]

/-- Where a category finds no more than it may keep, it keeps what it finds. -/
theorem mem_all_select_of_length_le (hfiles : files.Nodup)
    (hlength : ((gatherExcerpts s read c files).length : Int) ≤ s.maxExamples)
    (he : e ∈ gatherExcerpts s read c files) : e ∈ (select s read files).all := by
  have hpos : 0 < (gatherExcerpts s read c files).length := List.length_pos_of_mem he
  refine mem_all_select.2 ⟨c, ?_⟩
  rw [selectExcerpts_eq_take hfiles (by omega), List.take_of_length_le]
  · exact List.mem_mergeSort.2 he
  · rw [List.length_mergeSort]
    omega

/-- Of different files no excerpt is selected twice, and two excerpts have one identifier in two
cases only: functions of one file that have one name, and the component of a Vue file that runs into
the component of a script. -/
theorem id_eq_iff_of_mem_select (fs : FileSystem) (root : Location) (s : Settings)
    {files : List Text} (hfiles : files.Nodup) :
    let chosen := (select s (fs.readSource root (some s.maxFileSize)) files).all
    chosen.Nodup ∧ ∀ e ∈ chosen, ∀ e' ∈ chosen,
      (e.id = e'.id ↔ e = e' ∨ e.Namesakes e' ∨ e.RunsInto e' ∨ e'.RunsInto e) := by
  intro chosen
  refine ⟨nodup_all_select hfiles, fun e he e' he' => ?_⟩
  obtain ⟨c, he⟩ := mem_all_select.1 he
  obtain ⟨c', he'⟩ := mem_all_select.1 he'
  exact id_eq_iff_of_mem_gatherExcerpts (mem_gatherExcerpts_of_mem_select he)
    (mem_gatherExcerpts_of_mem_select he')

/-- A module that declares a function twice, and a Vue file that runs into a script. -/
def clashing : FileSystem where
  top := [
    ("src", .folder [("jobs.py", .file (Utf8.encode
      "def run(x):\n if x:\n  return\ndef run(x):\n if x:\n  return\n".toList))]),
    ("pages", .folder [
      (".js-F.vue", .file (Utf8.encode "<script></script>".toList)),
      (".js-F.vue-.js", .file (Utf8.encode "export const F".toList))])]

/-- Its files. -/
def clashingFiles : List Text := ["pages/.js-F.vue", "pages/.js-F.vue-.js", "src/jobs.py"]

/-- Its excerpts. -/
def clashingExcerpts (c : Category) : List Excerpt :=
  gatherExcerpts .standard (clashing.readSource [] (some Settings.standard.maxFileSize)) c
    clashingFiles

theorem nodup_clashingFiles : clashingFiles.Nodup := by decide +kernel

/-- The function is found twice. -/
theorem exists_twice_of_clashing :
    ((clashingExcerpts .function).length : Int) ≤ Settings.standard.maxExamples ∧
      ∃ e ∈ clashingExcerpts .function, ∃ e' ∈ clashingExcerpts .function,
        e.startLine ≠ e'.startLine ∧ e.path = e'.path ∧ e.title = e'.title ∧ e.id = e'.id := by
  decide +kernel

/-- The two functions are namesakes, and for this reason they have one identifier. -/
theorem namesakes_of_clashing :
    let chosen := select .standard (clashing.readSource [] (some Settings.standard.maxFileSize))
      clashingFiles
    clashingFiles.Nodup ∧ chosen.all.Nodup ∧
      ∃ e ∈ chosen.all, ∃ e' ∈ chosen.all, e ≠ e' ∧ e.Namesakes e' ∧ e.id = e'.id := by
  intro chosen
  obtain ⟨hnodup, hid⟩ := id_eq_iff_of_mem_select clashing [] .standard nodup_clashingFiles
  obtain ⟨hlength, e, he, e', he', hline, hpath, htitle, -⟩ := exists_twice_of_clashing
  have hmem : e ∈ chosen.all := mem_all_select_of_length_le nodup_clashingFiles hlength he
  have hmem' : e' ∈ chosen.all := mem_all_select_of_length_le nodup_clashingFiles hlength he'
  have hnames : e.Namesakes e' :=
    ⟨⟨category_of_mem_gatherExcerpts he, category_of_mem_gatherExcerpts he'⟩, hpath, htitle⟩
  refine ⟨nodup_clashingFiles, hnodup, e, hmem, e', hmem', ?_, hnames, ?_⟩
  · rintro rfl
    exact hline rfl
  · exact (hid e hmem e' hmem').2 (.inr (.inl hnames))

/-- Different excerpts may have one identifier, be they of one file or of two. -/
theorem ids_of_clashing_not_distinct :
    let chosen := select .standard (clashing.readSource [] (some Settings.standard.maxFileSize))
      clashingFiles
    clashingFiles.Nodup ∧
      (∃ e ∈ chosen.all, ∃ e' ∈ chosen.all, e.path = e'.path ∧ e ≠ e' ∧ e.id = e'.id) ∧
      ∃ e ∈ chosen.all, ∃ e' ∈ chosen.all, e.path ≠ e'.path ∧ e ≠ e' ∧ e.id = e'.id := by
  intro chosen
  have hcomponents :
      ((clashingExcerpts .component).length : Int) ≤ Settings.standard.maxExamples ∧
        ∃ e ∈ clashingExcerpts .component, ∃ e' ∈ clashingExcerpts .component,
          e.path ≠ e'.path ∧ e.id = e'.id := by
    decide +kernel
  refine ⟨nodup_clashingFiles, ?_, ?_⟩
  · obtain ⟨hlength, e, he, e', he', hline, hpath, -, hid⟩ := exists_twice_of_clashing
    refine ⟨e, mem_all_select_of_length_le nodup_clashingFiles hlength he,
      e', mem_all_select_of_length_le nodup_clashingFiles hlength he', hpath, ?_, hid⟩
    rintro rfl
    exact hline rfl
  · obtain ⟨hlength, e, he, e', he', hpath, hid⟩ := hcomponents
    refine ⟨e, mem_all_select_of_length_le nodup_clashingFiles hlength he,
      e', mem_all_select_of_length_le nodup_clashingFiles hlength he', hpath, ?_, hid⟩
    rintro rfl
    exact hpath rfl

end ExcerptSet
end Files
end CodeSurvey
