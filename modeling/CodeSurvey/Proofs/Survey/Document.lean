import CodeSurvey.Command.Run
import CodeSurvey.Proofs.Decimal.Notation
import CodeSurvey.Proofs.Excerpt.Identifiers
import CodeSurvey.Proofs.Json.RoundTrip
import CodeSurvey.Proofs.Quality.Bounds

/-!
# The document of a survey tells everything

A survey is given out as a document, and the document as text. The text is read back as the
document, and the document holds all fields of the survey, so that the text tells surveys apart. A
figure is known by its spelling alone: two figures are told apart if they are spelled otherwise.

## Main definitions

* `Document.token x`: the spelling of a figure.
* `Survey.map f s`: the survey with its figures in another form.
* `Survey.figures s`: the figures of a survey.
-/

namespace CodeSurvey

/-- What one function tells of the items of two lists, so does another one that tells as much. -/
theorem map_eq_map_of {α β γ : Type} {f : α → β} {g : α → γ} {l l' : List α}
    (hfg : ∀ a ∈ l, ∀ b ∈ l', f a = f b → g a = g b) (h : l.map f = l'.map f) :
    l.map g = l'.map g := by
  induction l generalizing l' with
  | nil => rw [List.map_eq_nil_iff.1 h.symm]
  | cons a l ih =>
      cases l' with
      | nil => exact absurd h nofun
      | cons b l' =>
          obtain ⟨hab, hrest⟩ := List.cons.inj h
          rw [List.map_cons, List.map_cons, hfg a List.mem_cons_self b List.mem_cons_self hab,
            ih (fun x hx y hy => hfg x (List.mem_cons_of_mem _ hx) y (List.mem_cons_of_mem _ hy))
              hrest]

/-! ## Figures in another form -/

section Map

variable {α β : Type}

/-- A technology with its confidence in another form. -/
def Technology.map (f : α → β) (t : Technology α) : Technology β :=
  ⟨t.name, f t.confidence, t.evidence, t.version⟩

/-- All technologies with their confidence in another form. -/
def TechnologyProfile.map (f : α → β) (p : TechnologyProfile α) : TechnologyProfile β where
  languages := p.languages.map (.map f)
  frameworks := p.frameworks.map (.map f)
  databases := p.databases.map (.map f)
  tools := p.tools.map (.map f)
  libraries := p.libraries.map (.map f)

/-- A survey with its figures in another form. -/
def Survey.map (f : α → β) (s : Survey α) : Survey β where
  name := s.name
  path := s.path
  technologies := s.technologies.map f
  layout := s.layout
  tree := s.tree
  excerpts := s.excerpts
  idioms := s.idioms
  quality := s.quality.map f
  insights := s.insights

/-- The five lists of technologies. -/
def TechnologyProfile.lists (p : TechnologyProfile α) : List (List (Technology α)) :=
  [p.languages, p.frameworks, p.databases, p.tools, p.libraries]

/-- The quality figures as a list. -/
def QualityFigures.figures (q : QualityFigures α) : List α :=
  [q.averageFileSize, q.commentRatio, q.cyclomatic, q.cognitive, q.maintainability,
    q.duplicatePercentage]

/-- The figures of a survey. -/
def Survey.figures (s : Survey α) : List α :=
  s.technologies.lists.flatten.map Technology.confidence ++ s.quality.figures

/-! ## Figures that are told apart -/

variable {f : α → β}

theorem Technology.eq_of_map_eq {t t' : Technology α}
    (hf : f t.confidence = f t'.confidence → t.confidence = t'.confidence)
    (h : t.map f = t'.map f) : t = t' := by
  cases t
  cases t'
  simp only [Technology.map, Technology.mk.injEq] at h hf ⊢
  exact ⟨h.1, hf h.2.1, h.2.2⟩

theorem TechnologyProfile.eq_of_map_eq {p p' : TechnologyProfile α}
    (hf : ∀ x ∈ p.lists.flatten.map Technology.confidence,
      ∀ y ∈ p'.lists.flatten.map Technology.confidence, f x = f y → x = y)
    (h : p.map f = p'.map f) : p = p' := by
  have hlists : p.lists.map (List.map (Technology.map f)) =
      p'.lists.map (List.map (Technology.map f)) := congrArg lists h
  have hsame : p.lists.map id = p'.lists.map id := by
    refine map_eq_map_of (fun ts hts ts' hts' hmap => ?_) hlists
    have hid := map_eq_map_of (g := id) (fun t ht t' ht' => Technology.eq_of_map_eq (hf _
      (List.mem_map_of_mem (List.mem_flatten_of_mem hts ht)) _
      (List.mem_map_of_mem (List.mem_flatten_of_mem hts' ht')))) hmap
    simpa using hid
  cases p
  cases p'
  simpa [lists] using hsame

theorem QualityFigures.eq_of_map_eq {q q' : QualityFigures α}
    (hf : ∀ x ∈ q.figures, ∀ y ∈ q'.figures, f x = f y → x = y) (h : q.map f = q'.map f) :
    q = q' := by
  have hsame : q.figures.map id = q'.figures.map id :=
    map_eq_map_of hf (congrArg figures h : (q.map f).figures = (q'.map f).figures)
  have hlines := congrArg totalLines h
  have hfiles := congrArg fileCount h
  cases q
  cases q'
  simp_all [figures, map]

/-- A form that tells the figures of two surveys apart tells the surveys apart. -/
theorem Survey.eq_of_map_eq {s s' : Survey α}
    (hf : ∀ x ∈ s.figures, ∀ y ∈ s'.figures, f x = f y → x = y) (h : s.map f = s'.map f) :
    s = s' := by
  have htechnologies : s.technologies = s'.technologies :=
    TechnologyProfile.eq_of_map_eq
      (fun x hx y hy => hf x (List.mem_append_left _ hx) y (List.mem_append_left _ hy))
      (congrArg technologies h)
  have hquality : s.quality = s'.quality :=
    QualityFigures.eq_of_map_eq
      (fun x hx y hy => hf x (List.mem_append_right _ hx) y (List.mem_append_right _ hy))
      (congrArg quality h)
  cases s
  cases s'
  simp only [Survey.map, Survey.mk.injEq] at h ⊢
  obtain ⟨hname, hpath, -, hlayout, htree, hexcerpts, hidioms, -, hinsights⟩ := h
  exact ⟨hname, hpath, htechnologies, hlayout, htree, hexcerpts, hidioms, hquality, hinsights⟩

end Map

namespace Document

/-- The spelling of a figure. -/
def token (x : Float) : Text := Shortest.text figureStyle x

/-! ## Parts that are told apart -/

@[simp] theorem figure_eq_iff {x y : Float} : figure x = figure y ↔ token x = token y := by
  simp [figure, token]

@[simp] theorem count_eq_iff {m n : Nat} : count m = count n ↔ m = n := by
  simp [count]

@[simp] theorem texts_eq_iff {ts ts' : List Text} : texts ts = texts ts' ↔ ts = ts' := by
  rw [texts, texts, Json.array.injEq, List.map_inj_right fun _ _ => Json.string.inj]

@[simp] theorem technology_eq_iff {t t' : Technology Float} :
    technology t = technology t' ↔ t.map token = t'.map token := by
  cases ht : t.version <;> cases ht' : t'.version <;>
    simp [technology, object, Technology.map, ht, ht']

@[simp] theorem technologyList_eq_iff {ts ts' : List (Technology Float)} :
    technologyList ts = technologyList ts' ↔
      ts.map (Technology.map token) = ts'.map (Technology.map token) := by
  rw [technologyList, technologyList, Json.array.injEq]
  exact ⟨map_eq_map_of fun _ _ _ _ => technology_eq_iff.1,
    map_eq_map_of fun _ _ _ _ => technology_eq_iff.2⟩

@[simp] theorem technologies_eq_iff {p p' : TechnologyProfile Float} :
    technologies p = technologies p' ↔ p.map token = p'.map token := by
  simp [technologies, object, TechnologyProfile.map]

@[simp] theorem quality_eq_iff {q q' : QualityFigures Float} :
    quality q = quality q' ↔ q.map token = q'.map token := by
  simp [quality, object, QualityFigures.map, and_assoc]

@[simp] theorem insights_eq_iff {i i' : Insights} : insights i = insights i' ↔ i = i' := by
  cases i
  cases i'
  simp [insights, object]

theorem projectType_name_injective : Function.Injective ProjectType.name := by
  rintro (⟨_ | _ | _ | _ | _⟩ | _ | _) (⟨_ | _ | _ | _ | _⟩ | _ | _) h <;>
    first | rfl | exact absurd h (by decide)

theorem architecture_name_injective : Function.Injective Architecture.name := by
  intro a b h
  cases a <;> cases b <;> first | rfl | exact absurd h (by decide)

theorem documentation_name_injective : Function.Injective DocumentationLevel.name := by
  intro a b h
  cases a <;> cases b <;> first | rfl | exact absurd h (by decide)

theorem importance_name_injective : Function.Injective Importance.name := fun a b h =>
  Option.some.inj (by rw [← Importance.ofName?_name, h, Importance.ofName?_name])

theorem tier_name_injective : Function.Injective Tier.name := fun a b h =>
  Option.some.inj (by rw [← Tier.ofName?_name, h, Tier.ofName?_name])

theorem category_name_injective : Function.Injective Category.name :=
  fun _ _ => Category.name_injective

@[simp] theorem layout_eq_iff {l l' : Layout} : layout l = layout l' ↔ l = l' := by
  cases l
  cases l'
  simp [layout, object, projectType_name_injective.eq_iff, architecture_name_injective.eq_iff,
    documentation_name_injective.eq_iff]

@[simp] theorem excerpt_eq_iff {e e' : Excerpt} : excerpt e = excerpt e' ↔ e = e' := by
  cases e
  cases e'
  simp [excerpt, object, category_name_injective.eq_iff, tier_name_injective.eq_iff]

@[simp] theorem excerptList_eq_iff {es es' : List Excerpt} :
    excerptList es = excerptList es' ↔ es = es' := by
  rw [excerptList, excerptList, Json.array.injEq, List.map_inj_right fun _ _ => excerpt_eq_iff.1]

@[simp] theorem excerpts_eq_iff {s s' : ExcerptSet} : excerpts s = excerpts s' ↔ s = s' := by
  cases s
  cases s'
  simp [excerpts, object]

@[simp] theorem idiom_eq_iff {i i' : IdiomUse} : idiom i = idiom i' ↔ i = i' := by
  cases i
  cases i'
  simp [idiom, object]

@[simp] theorem idioms_eq_iff {is is' : List IdiomUse} : idioms is = idioms is' ↔ is = is' := by
  rw [idioms, idioms, Json.array.injEq, List.map_inj_right fun _ _ => idiom_eq_iff.1]

mutual

/-- The tree is told by its document, however deep it is. -/
theorem eq_of_tree_eq : ∀ {node node' : TreeNode}, tree node = tree node' → node = node'
  | .file .., .file .., h => by
    simpa [tree, object, importance_name_injective.eq_iff] using h
  | .folder name path importance nodes, .folder name' path' importance' nodes', h => by
    obtain ⟨rfl, rfl, rfl, hnodes⟩ : name = name' ∧ path = path' ∧ importance = importance' ∧
        trees nodes = trees nodes' := by
      simpa [tree, object, importance_name_injective.eq_iff] using h
    rw [eq_of_trees_eq hnodes]
  | .file .., .folder .., h => by simp [tree, object] at h
  | .folder .., .file .., h => by simp [tree, object] at h

theorem eq_of_trees_eq :
    ∀ {nodes nodes' : List TreeNode}, trees nodes = trees nodes' → nodes = nodes'
  | [], [], _ => rfl
  | node :: nodes, node' :: nodes', h => by
    rw [trees, trees, List.cons.injEq] at h
    rw [eq_of_tree_eq h.1, eq_of_trees_eq h.2]
  | [], _ :: _, h => by simp [trees] at h
  | _ :: _, [], h => by simp [trees] at h

end

@[simp] theorem tree_eq_iff {node node' : TreeNode} : tree node = tree node' ↔ node = node' :=
  ⟨eq_of_tree_eq, fun h => by rw [h]⟩

/-- A survey is told by its document, its figures by their spellings. -/
theorem survey_eq_iff {s s' : Survey Float} {time time' : Text} :
    survey s time = survey s' time' ↔ time = time' ∧ s.map token = s'.map token := by
  simp only [survey, object, Survey.map]
  simp
  tauto

/-! ## Documents are well formed -/

section WellFormed

open Json (WellFormed)

theorem wellFormed_object {members : List (String × Json)}
    (distinct : (members.map Prod.fst).Nodup) (parts : ∀ m ∈ members, WellFormed none m.2) :
    WellFormed none (object members) := by
  have hnames : ((members.map Prod.fst).map String.toList).Nodup :=
    distinct.map fun _ _ => String.toList_inj.1
  refine .object ?_ ?_
  · rw [List.map_map] at hnames
    rw [Table.names, List.map_map]
    exact hnames
  · exact List.forall_mem_map.2 parts

theorem wellFormed_list {α : Type} {f : α → Json} (h : ∀ a, WellFormed none (f a)) (l : List α) :
    WellFormed none (.array (l.map f)) :=
  .array (List.forall_mem_map.2 fun a _ => h a)

@[simp] theorem wellFormed_string (t : Text) : WellFormed none (.string t) := .string t

@[simp] theorem wellFormed_null : WellFormed none .null := .null

@[simp] theorem wellFormed_figure (x : Float) : WellFormed none (figure x) :=
  .decimal (Shortest.spelling_text x)

@[simp] theorem wellFormed_count (n : Nat) : WellFormed none (count n) := .int rfl

@[simp] theorem wellFormed_texts (ts : List Text) : WellFormed none (texts ts) :=
  wellFormed_list wellFormed_string ts

theorem wellFormed_technology (t : Technology Float) : WellFormed none (technology t) := by
  have hversion : WellFormed none ((t.version.map Json.string).getD .null) := by
    cases t.version <;> simp
  exact wellFormed_object (by simp) (by simp [hversion])

@[simp] theorem wellFormed_technologyList (ts : List (Technology Float)) :
    WellFormed none (technologyList ts) :=
  wellFormed_list wellFormed_technology ts

@[simp] theorem wellFormed_technologies (p : TechnologyProfile Float) :
    WellFormed none (technologies p) :=
  wellFormed_object (by simp) (by simp)

@[simp] theorem wellFormed_layout (l : Layout) : WellFormed none (layout l) :=
  wellFormed_object (by simp) (by simp)

@[simp] theorem wellFormed_excerptList (es : List Excerpt) : WellFormed none (excerptList es) :=
  wellFormed_list (fun _ => wellFormed_object (by simp) (by simp)) es

@[simp] theorem wellFormed_excerpts (s : ExcerptSet) : WellFormed none (excerpts s) :=
  wellFormed_object (by simp) (by simp)

@[simp] theorem wellFormed_idioms (is : List IdiomUse) : WellFormed none (idioms is) :=
  wellFormed_list (fun _ => wellFormed_object (by simp) (by simp)) is

@[simp] theorem wellFormed_quality (q : QualityFigures Float) : WellFormed none (quality q) := by
  have hcomplexity : WellFormed none
      (object [("cyclomatic", figure q.cyclomatic), ("cognitive", figure q.cognitive)]) :=
    wellFormed_object (by simp) (by simp)
  exact wellFormed_object (by simp) (by simp [hcomplexity])

@[simp] theorem wellFormed_insights (i : Insights) : WellFormed none (insights i) :=
  wellFormed_object (by simp) (by simp)

mutual

@[simp] theorem wellFormed_tree : ∀ node : TreeNode, WellFormed none (tree node)
  | .file .. => wellFormed_object (by simp) (by simp)
  | .folder _ _ _ nodes => by
    have hnodes : WellFormed none (.array (trees nodes)) := .array (wellFormed_trees nodes)
    exact wellFormed_object (by simp) (by simp [hnodes])

theorem wellFormed_trees : ∀ nodes : List TreeNode, ∀ v ∈ trees nodes, WellFormed none v
  | [] => nofun
  | node :: nodes => List.forall_mem_cons.2 ⟨wellFormed_tree node, wellFormed_trees nodes⟩

end

/-- Whatever the survey, its document can be told from its text. -/
theorem wellFormed_survey (s : Survey Float) (time : Text) : WellFormed none (survey s time) :=
  wellFormed_object (by simp) (by simp)

end WellFormed

end Document

/-! ## The text of a survey -/

/-- What is given out for a survey is ASCII text that is read back as the survey's document, which
holds every field: surveys of one text are the same but for figures that are spelled alike, and if
none are, they are the same. The text loses nothing because that of no well-formed value does, be
its integers as large as may be; and what has no unit of its own is written as a surrogate pair. -/
theorem payload_reads_back :
    (∀ (clock : Clock) (s : Survey Float),
      (∀ c ∈ payload clock s, c.toNat < 0x80) ∧
        Json.parseWithin none (payload clock s) = .ok (Document.survey s clock.surveyTime)) ∧
    (∀ (clock clock' : Clock) (s s' : Survey Float), payload clock s = payload clock' s' →
      clock.surveyTime = clock'.surveyTime ∧ s.map Document.token = s'.map Document.token ∧
        ((∀ x ∈ s.figures, ∀ y ∈ s'.figures, Document.token x = Document.token y → x = y) →
          s = s')) ∧
    (∀ (limit : Option Nat) (v : Json), v.WellFormed limit →
      (∀ c ∈ Json.print v, c.toNat < 0x80) ∧
        Json.parseWithin limit (Json.print v ++ ['\n']) = .ok v) ∧
    ∀ c : Char, 0x10000 ≤ c.toNat → ∃ high low, Json.isHigh high = true ∧ Json.isLow low = true ∧
      Json.encodeChar c = Json.encodeUnit high ++ Json.encodeUnit low ∧
        Json.ofPair high low = c := by
  have hline : ∀ c ∈ ['\n'], c = '\n' := List.forall_mem_singleton.2 rfl
  have hparse {limit : Option Nat} {v : Json} (h : v.WellFormed limit) :
      Json.parseWithin limit (Json.print v ++ ['\n']) = .ok v := h.parseWithin_print hline
  refine ⟨fun clock s => ⟨?_, hparse (Document.wellFormed_survey s _)⟩,
    fun clock clock' s s' h => ?_, fun limit v h => ⟨h.ascii 0, hparse h⟩, fun c hc => ?_⟩
  · have hascii := (Document.wellFormed_survey s clock.surveyTime).ascii 0
    exact List.forall_mem_append.2 ⟨hascii, List.forall_mem_singleton.2 (by decide)⟩
  · have hdocument : Document.survey s clock.surveyTime = Document.survey s' clock'.surveyTime :=
      (Document.wellFormed_survey s _).eq_of_print_eq (Document.wellFormed_survey s' _)
        (List.append_cancel_right h)
    obtain ⟨htime, hmap⟩ := Document.survey_eq_iff.1 hdocument
    exact ⟨htime, hmap, fun htoken => Survey.eq_of_map_eq htoken hmap⟩
  · exact ⟨Json.highHalf c, Json.lowHalf c, Json.isHigh_highHalf c, Json.isLow_lowHalf c,
      Json.encodeChar_of_le hc, Json.ofPair_halves hc⟩

end CodeSurvey
