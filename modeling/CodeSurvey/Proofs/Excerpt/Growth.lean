import CodeSurvey.Excerpt.Basic
import CodeSurvey.Proofs.Regex.Anywhere
import CodeSurvey.Proofs.Source.Block
import CodeSurvey.Proofs.Source.Joining
import CodeSurvey.Proofs.Text.Lower
import Mathlib.Algebra.Order.BigOperators.Group.List

/-!
# Excerpts that grow

The judgement of an excerpt never falls when lines are added before or after it. Decisions and lines
add up over lines; a tag asks for what stands somewhere in the code, never for what does not; and
the score goes up with the tier, the tags and the length.

## Main definitions

* `Tagging.Le xs ys`: the same tags are asked for, and those given in `xs` are given in `ys`.
* `NoWorse code code'`: no tier, tag or point of the score is lost from `code` to `code'`.
-/

namespace CodeSurvey

/-! ## Tiers -/

/-- More lines and more decisions make no lower tier. -/
theorem Tier.rank_ofCounts_mono {lines lines' decisions decisions' : Int} (hlines : lines ≤ lines')
    (hdecisions : decisions ≤ decisions') :
    (ofCounts lines decisions).rank ≤ (ofCounts lines' decisions').rank := by
  simp only [ofCounts, Bool.or_eq_true, decide_eq_true_eq]
  split
  · rw [if_pos (by omega)]
  · split
    · split
      · decide
      · rw [if_pos (by omega)]
    · split
      · decide
      · split <;> decide

section Lines

variable {part ls : List Text}

theorem decisionCount_le_of_infix (h : part <:+: ls) :
    decisionCount (Text.unlines part) ≤ decisionCount (Text.unlines ls) := by
  rw [decisionCount_unlines, decisionCount_unlines]
  exact (h.sublist.map _).sum_le_sum fun _ _ => Nat.zero_le _

theorem length_lines_le_of_infix (h : part <:+: ls) (hpart : part ≠ []) :
    (Text.lines (Text.unlines part)).length ≤ (Text.lines (Text.unlines ls)).length := by
  have hls : ls ≠ [] := by
    rintro rfl
    exact hpart (List.infix_nil.1 h)
  rw [length_lines_unlines hpart, length_lines_unlines hls]
  exact (h.sublist.map _).sum_le_sum fun _ _ => Nat.zero_le _

theorem rank_ofCode_le_of_infix (h : part <:+: ls) (hpart : part ≠ []) :
    (Tier.ofCode (Text.unlines part)).rank ≤ (Tier.ofCode (Text.unlines ls)).rank := by
  have hlines := length_lines_le_of_infix h hpart
  have hdecisions := decisionCount_le_of_infix h
  refine Tier.rank_ofCounts_mono ?_ ?_
  · exact_mod_cast hlines
  · exact_mod_cast Nat.succ_le_succ hdecisions

end Lines

/-! ## Tags -/

namespace Tagging

/-- The same tags are asked for in two lists, and those that the first gives the second gives. -/
def Le (xs ys : List (Text × Bool)) : Prop :=
  List.Forall₂ (fun x y => x.1 = y.1 ∧ (x.2 = true → y.2 = true)) xs ys

theorem Le.append {xs ys xs' ys' : List (Text × Bool)} (h : Le xs ys) (h' : Le xs' ys') :
    Le (xs ++ xs') (ys ++ ys') := List.rel_append h h'

/-- The tags that are given stay in their order. -/
theorem Le.sublist {xs ys : List (Text × Bool)} (h : Le xs ys) :
    ((xs.filter (·.2)).map (·.1)).Sublist ((ys.filter (·.2)).map (·.1)) := by
  induction h with
  | nil => exact .slnil
  | @cons x y xs ys hxy _ ih =>
      obtain ⟨hname, hgiven⟩ := hxy
      cases hx : x.2 with
      | false =>
          rw [List.filter_cons_of_neg (by simp [hx])]
          refine ih.trans ?_
          exact ((List.sublist_cons_self y ys).filter _).map _
      | true =>
          rw [List.filter_cons_of_pos hx, List.filter_cons_of_pos (hgiven hx), List.map_cons,
            List.map_cons, hname]
          exact ih.cons_cons _

end Tagging

section Tags

variable {code code' : Text} (h : code <:+: code')
include h

theorem occursIn_of_infix {w : Text} (hw : Text.occursIn w code = true) :
    Text.occursIn w code' = true := Text.occursIn_iff.2 ((Text.occursIn_iff.1 hw).trans h)

theorem mentionsAny_mono {ws : List Text} (hws : mentionsAny ws code = true) :
    mentionsAny ws code' = true := by
  obtain ⟨w, hmem, hw⟩ := List.any_eq_true.1 hws
  exact List.any_eq_true.2 ⟨w, hmem, occursIn_of_infix h hw⟩

theorem mentionsAll_mono {ws : List Text} (hws : mentionsAll ws code = true) :
    mentionsAll ws code' = true :=
  List.all_eq_true.2 fun w hmem => occursIn_of_infix h (List.all_eq_true.1 hws w hmem)

theorem commonTags_le (language : Text) :
    Tagging.Le (commonTags language code) (commonTags language code') := by
  refine .cons ⟨rfl, mentionsAll_mono h⟩ (.cons ⟨rfl, ?_⟩ (.cons ⟨rfl, ?_⟩ (.cons ⟨rfl, ?_⟩
    .nil)))
  · simpa only [Bool.and_eq_true] using And.imp (mentionsAll_mono h) (mentionsAny_mono h)
  · simpa only [Bool.and_eq_true] using And.imp_right (mentionsAny_mono h)
  · simpa only [Bool.and_eq_true] using And.imp_right (mentionsAny_mono h)

/-- Only the tags of tests ask for the small form of the code, and only those of interfaces for a
match of an expression. -/
theorem categoryTags_le (c : Category) :
    Tagging.Le (categoryTags code c) (categoryTags code' c) := by
  have hany {name : Text} {ws : List Text} :
      name = name ∧ (mentionsAny ws code = true → mentionsAny ws code' = true) :=
    ⟨rfl, mentionsAny_mono h⟩
  cases c with
  | component => exact .cons hany (.cons hany (.cons hany (.cons hany .nil)))
  | function => exact .cons hany (.cons hany .nil)
  | api =>
      refine .cons hany (.cons hany (.cons ⟨rfl, mentionsAll_mono h⟩ (.cons ⟨rfl, ?_⟩ .nil)))
      exact Regex.occursIn_of_infix (by decide) h
  | test =>
      refine .cons hany (.cons hany (.cons ⟨rfl, ?_⟩ (.cons hany .nil)))
      simpa [mentionsAny] using Text.occursIn_lower_of_infix (by decide) (by decide) h
  | config | model | util => exact .nil

/-- A piece of code has the tags of all its parts. -/
theorem tagsOf_sublist (category : Option Category) (language : Text) :
    (tagsOf code category language).Sublist (tagsOf code' category language) := by
  refine ((commonTags_le h language).append ?_).sublist
  cases category with
  | none => exact .nil
  | some c => exact categoryTags_le h c

end Tags

/-- No two tags that are asked for have one name. -/
theorem nodup_tagsOf (code : Text) (category : Option Category) (language : Text) :
    (tagsOf code category language).Nodup := by
  have hsame : (commonTags language code ++ (category.map (categoryTags code)).getD []).map (·.1) =
      (commonTags [] [] ++ (category.map (categoryTags [])).getD []).map (·.1) := by
    rcases category with - | c
    · rfl
    · cases c <;> rfl
  have hnames :
      ((commonTags [] [] ++ (category.map (categoryTags [])).getD []).map (·.1)).Nodup := by
    rcases category with - | c
    · decide
    · cases c <;> decide
  exact (hsame ▸ hnames).sublist (List.filter_sublist.map _)

/-! ## Judgements -/

/-- The second piece of code is judged no worse than the first, in whichever category and language:
it has no lower tier, all tags and no lower score. -/
structure NoWorse (code code' : Text) : Prop where
  rank : (Tier.ofCode code).rank ≤ (Tier.ofCode code').rank
  tags : ∀ category language,
    (tagsOf code category language).Sublist (tagsOf code' category language)
  score : ∀ category language weight,
    Excerpt.scoreOf (.ofCode code) (tagsOf code category language).length code weight ≤
      Excerpt.scoreOf (.ofCode code') (tagsOf code' category language).length code' weight

section Lines

variable {part ls : List Text}

/-- Lines that are added before or after do not make a judgement worse. -/
theorem noWorse_of_infix (h : part <:+: ls) (hpart : part ≠ []) :
    NoWorse (Text.unlines part) (Text.unlines ls) := by
  have hrank := rank_ofCode_le_of_infix h hpart
  have htags := tagsOf_sublist (Text.joinWith_infix ['\n'] h hpart)
  refine ⟨hrank, htags, fun category language weight => ?_⟩
  have hnumber := (htags category language).length_le
  have hlines := length_lines_le_of_infix h hpart
  have htens := Nat.div_le_div_right (c := 10) hlines
  change (tagsOf (Text.unlines part) category language).length ≤
    (tagsOf (Text.unlines ls) category language).length at hnumber
  simp only [Excerpt.scoreOf]
  omega

/-- A range of lines is a part of every range around it. -/
theorem range_infix (ls : List Text) {first first' last last' : Nat} (hfirst : first' ≤ first)
    (hlast : last ≤ last') :
    (ls.take last).drop (first - 1) <:+: (ls.take last').drop (first' - 1) := by
  have hdrop : first - 1 = (first' - 1) + (first - 1 - (first' - 1)) := by omega
  rw [hdrop, ← List.drop_drop]
  refine (List.drop_suffix _ _).isInfix.trans ?_
  rw [List.drop_take, List.drop_take]
  exact (List.take_prefix_take_left (by omega)).isInfix

theorem noWorse_lineRange {first first' last last' : Nat} (hone : 1 ≤ first')
    (hfirst : first' ≤ first) (hrange : first ≤ last) (hlast : last ≤ last')
    (hlength : last' ≤ ls.length) :
    NoWorse (lineRange ls first last) (lineRange ls first' last') := by
  have hinfix := range_infix ls hfirst hlast
  refine noWorse_of_infix hinfix (List.ne_nil_of_length_pos ?_)
  rw [List.length_drop, List.length_take]
  omega

end Lines

/-- An excerpt that is made of more lines, before or after, has no lower tier, keeps its tags and
has no lower score; no tag is given twice. Code outside the categories is judged no otherwise, and a
tier never falls with more lines or more decisions. -/
theorem excerpt_judgement_grows {path : Text} {ls : List Text} {first first' last last' : Nat}
    {label label' : Excerpt.Label} (hone : 1 ≤ first') (hfirst : first' ≤ first)
    (hrange : first ≤ last) (hlast : last ≤ last') (hlength : last' ≤ ls.length)
    (hcategory : label.category = label'.category) :
    let e := Excerpt.build path ls first last label none
    let e' := Excerpt.build path ls first' last' label' none
    (e.complexity.rank ≤ e'.complexity.rank ∧ e.tags.Sublist e'.tags ∧ e.tags.Nodup ∧
      e'.tags.Nodup ∧ e.score ≤ e'.score) ∧
    (∀ (language : Text) (weight : Nat),
      let tags := tagsOf e.code none language
      let tags' := tagsOf e'.code none language
      tags.Sublist tags' ∧ tags'.Nodup ∧
        Excerpt.scoreOf e.complexity tags.length e.code weight ≤
          Excerpt.scoreOf e'.complexity tags'.length e'.code weight) ∧
    ∀ lines lines' decisions decisions' : Int, lines ≤ lines' → decisions ≤ decisions' →
      (Tier.ofCounts lines decisions).rank ≤ (Tier.ofCounts lines' decisions').rank := by
  intro e e'
  have hcode : e.code = lineRange ls first last :=
    congrArg (lineRange ls first) (Nat.max_eq_right hrange)
  have hcode' : e'.code = lineRange ls first' last' :=
    congrArg (lineRange ls first') (Nat.max_eq_right (hfirst.trans (hrange.trans hlast)))
  have h : NoWorse e.code e'.code := by
    rw [hcode, hcode']
    exact noWorse_lineRange hone hfirst hrange hlast hlength
  have htags' : e'.tags = tagsOf e'.code label.category (Language.ofPath path) := by
    rw [hcategory]
    rfl
  have hscore : e'.score = Excerpt.scoreOf e'.complexity e'.tags.length e'.code
      e.category.weight := by
    rw [Excerpt.score, show e'.category = e.category from hcategory.symm]
  refine ⟨⟨h.rank, ?_, nodup_tagsOf _ _ _, nodup_tagsOf _ _ _, ?_⟩, fun language weight => ?_,
    fun _ _ _ _ => Tier.rank_ofCounts_mono⟩
  · rw [htags']
    exact h.tags label.category (Language.ofPath path)
  · rw [hscore, htags']
    exact h.score label.category (Language.ofPath path) e.category.weight
  · exact ⟨h.tags none language, nodup_tagsOf _ _ _, h.score none language weight⟩

/-- A request handler with its decorator and a test of its argument. -/
def handlerLines : List Text :=
  ["@app.get(\"/\")", "async def show(req):", "    if req: return await find(req)",
    "    res = None"]

/-- Around the definition of a handler stand its decorator and its body, which add to its tags. -/
theorem handler_grows :
    let label : Excerpt.Label := ⟨.api, [], [], []⟩
    let e := Excerpt.build "main.py" handlerLines 2 2 label none
    let e' := Excerpt.build "main.py" handlerLines 1 4 label none
    (e.tags = [] ∧ e'.tags = ["async-await", "request-response", "route-decorators"].map
      String.toList) ∧ e.tags.Sublist e'.tags ∧ e.score ≤ e'.score := by
  intro label e e'
  have h := @excerpt_judgement_grows "main.py" handlerLines 2 1 2 4 label label (by decide)
    (by decide) (by decide) (by decide) (by decide) rfl
  exact ⟨⟨by decide +kernel, by decide +kernel⟩, h.1.2.1, h.1.2.2.2.2⟩

end CodeSurvey
