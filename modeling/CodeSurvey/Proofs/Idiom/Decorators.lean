import CodeSurvey.Proofs.Idiom.Ranking
import CodeSurvey.Proofs.Regex.Leftmost
import CodeSurvey.Proofs.Text.Places

/-!
# Idioms that decorators show

Routes and classes of data are told by a decorator at the beginning of a line, with blanks in front
of it. Newlines are blanks too. So a search, which tries the places of a text from left to right,
finds the decorator from the first of the blank lines above it, and the excerpt is placed there: its
identifier gives the number of that line, and it holds the line of the decorator only if no more
than fifteen blank lines come between. Where the line above the decorator is not blank the excerpt
is placed at the decorator.

## Main definitions

* `Idiom.PlacedAbove e path t m`: where the excerpt of the match of a decorator is placed.
-/

namespace CodeSurvey

open Regex Text

variable {rest : Regex} {t : Text} {m : Match}

/-! ## Decorators -/

namespace Idiom

/-- A decorator begins behind blanks at the beginning of a line. -/
theorem leads_lineDecorator_iff {s e : Spot} :
    (lineDecorator rest).Leads s e ↔ s.previous.all (· == '\n') = true ∧
      ∃ w, (∀ c ∈ w, isBlank c = true) ∧ w ++ ['@'] <+: s.rest ∧
        rest.Leads (s.skip (w ++ ['@'])) e := by
  rw [lineDecorator, blanks, many]
  simp only [leads_seq_iff, leads_lineStart_iff, leads_run_iff, leads_literal_iff]
  constructor
  · rintro ⟨_, ⟨_, ⟨_, ⟨hstart, rfl⟩, w, hbegins, hw, rfl⟩, hat, rfl⟩, hrest⟩
    refine ⟨hstart, w, hw, Spot.append_prefix_rest_iff.2 ⟨hbegins, hat⟩, ?_⟩
    rwa [Spot.skip_append]
  · rintro ⟨hstart, w, hw, hbegins, hrest⟩
    obtain ⟨hbegins, hat⟩ := Spot.append_prefix_rest_iff.1 hbegins
    rw [Spot.skip_append] at hrest
    exact ⟨_, ⟨_, ⟨_, ⟨hstart, rfl⟩, w, hbegins, hw, rfl⟩, hat, rfl⟩, hrest⟩

/-- The first match of a decorator begins with blanks at the beginning of a line, and these cannot
begin at the beginning of an earlier line. -/
theorem exists_parts_of_find?_lineDecorator (h : (lineDecorator rest).find? t = some m) :
    ∃ before w after, t = before ++ (w ++ '@' :: after) ∧ m.start = before.length ∧
      w ++ ['@'] <+: m.text ∧ EndsLine before ∧ (∀ c ∈ w, isBlank c = true) ∧
      ∀ b u, before = b ++ u → EndsLine b → (∀ c ∈ u, isBlank c = true) → u = [] := by
  obtain ⟨before, found, e, rfl, hleads, rfl, hfirst⟩ := exists_leads_of_find? h
  obtain ⟨hstart, w, hw, ⟨after, hfound⟩, hrest⟩ := leads_lineDecorator_iff.1 hleads
  obtain rfl : (w ++ ['@']) ++ after = found := hfound
  refine ⟨before, w, after, by simp, rfl, ?_, hstart, hw, fun b u hbefore hb hu => ?_⟩
  · obtain ⟨x, hx, -⟩ := hrest.exists_passes
    have hoffset := hx.offset_eq
    simp only [Spot.skip, Spot.between] at hoffset
    rw [List.prefix_take_iff]
    refine ⟨List.prefix_append _ _, ?_⟩
    omega
  · -- the blanks before the place lead to the decorator as well
    subst hbefore
    by_contra hne
    have hlt : b.length < (b ++ u).length := by
      have := List.length_pos_iff.2 hne
      rw [List.length_append]
      omega
    refine hfirst b (u ++ ((w ++ ['@']) ++ after)) (by simp) hlt e ?_
    refine leads_lineDecorator_iff.2
      ⟨hb, u ++ w, fun c hc => ?_, ⟨after, by simp [Spot.between]⟩, ?_⟩
    · exact (List.mem_append.1 hc).elim (hu c) (hw c)
    · have hsame : (Spot.between b (u ++ ((w ++ ['@']) ++ after))).skip (u ++ w ++ ['@']) =
          (Spot.between (b ++ u) ((w ++ ['@']) ++ after)).skip (w ++ ['@']) := by
        rw [List.append_assoc u, Spot.skip_append, Spot.skip_between]
      rwa [hsame]

/-- The idioms of the catalog that decorators show. -/
def decoratorNames : List Text := ["Route Decorators", "Dataclass Models"]

theorem code_eq_lineDecorator {i : Idiom} (hi : i ∈ catalog) (hname : i.name ∈ decoratorNames) :
    ∃ rest, i.code = some (lineDecorator rest) := by
  have hentry : ∀ n ∈ decoratorNames,
      ∃ j ∈ catalog, j.name = n ∧ ∃ rest, j.code = some (lineDecorator rest) := by
    simp only [decoratorNames, List.forall_mem_cons]
    refine ⟨?_, ?_, by simp⟩
    · exact ⟨catalog.get ⟨8, by decide⟩, List.get_mem _ _, rfl, _, rfl⟩
    · exact ⟨catalog.get ⟨19, by decide⟩, List.get_mem _ _, rfl, _, rfl⟩
  obtain ⟨j, hj, hjname, rest, hcode⟩ := hentry i.name hname
  obtain rfl : j = i := List.inj_on_of_nodup_map nodup_names_catalog hj hi hjname
  exact ⟨rest, hcode⟩

/-! ## Where the excerpt is placed -/

/-- The offset of the decorator in a text, for a match that begins with the blanks before it. -/
def decoratorOffset (m : Match) : Nat := m.start + indentation m.text

/-- Where the excerpt of a decorator is placed in a text. The line that its identifier gives is the
first of the blank lines above the decorator, and thus the line of the decorator exactly if the line
above that one is not blank; and it holds the line of the decorator if this is one of the fifteen
lines that are shown after the first. -/
structure PlacedAbove (e : Excerpt) (path t : Text) (m : Match) : Prop where
  decorator : t[decoratorOffset m]? = some '@'
  isRange : e.IsRangeOf t
  id_eq : e.id = path ++ '-' :: ofNat (lineOfOffset t m.start)
  topsBlanks : TopsBlanks t (lineOfOffset t m.start) (lineOfOffset t (decoratorOffset m))
  line_eq_iff : lineOfOffset t m.start = lineOfOffset t (decoratorOffset m) ↔
    ∀ line, 0 < lineOfOffset t (decoratorOffset m) →
      (lines t)[lineOfOffset t (decoratorOffset m) - 1]? = some line → isBlankLine line = false
  holds_iff : e.HoldsLineOf t (decoratorOffset m) ↔
    lineOfOffset t (decoratorOffset m) ≤ lineOfOffset t m.start + 15

theorem placedAbove_matchExample (i : Idiom) (path : Text)
    (h : (lineDecorator rest).find? t = some m) :
    PlacedAbove (i.matchExample path t m) path t m := by
  obtain ⟨before, w, after, rfl, hstart, ⟨found, hfound⟩, hbefore, hw, hfirst⟩ :=
    exists_parts_of_find?_lineDecorator h
  have hindent : indentation m.text = w.length := by
    have hat : isBlank '@' = false := by decide
    rw [← hfound, indentation, List.append_assoc, List.takeWhile_append_of_pos hw]
    simp [hat]
  have hoffset : decoratorOffset m = (before ++ w).length := by
    rw [decoratorOffset, hstart, hindent, List.length_append]
  have hline : lineOfOffset (before ++ (w ++ '@' :: after)) m.start = before.count '\n' := by
    rw [hstart, lineOfOffset_append]
  have hline' : lineOfOffset (before ++ (w ++ '@' :: after)) (decoratorOffset m) =
      (before ++ w).count '\n' := by
    rw [hoffset, ← List.append_assoc, lineOfOffset_append]
  have htops := topsBlanks_of_parts hbefore hw hfirst ('@' :: after)
  rw [← hline, ← hline'] at htops
  have hlt := lineOfOffset_lt (before ++ (w ++ '@' :: after)) (decoratorOffset m)
  refine ⟨?_, isRangeOf_matchExample i path _ m, rfl, htops, htops.eq_iff hlt, ?_⟩
  · rw [hoffset, ← List.append_assoc, List.getElem?_append_right (Nat.le_refl _), Nat.sub_self]
    rfl
  · have hle := htops.le
    simp only [Excerpt.HoldsLineOf, matchExample, Excerpt.startLine_build, Excerpt.endLine_build,
      linesBefore, linesAfter]
    omega

/-- A file in which the code is found is illustrated by the first match. -/
theorem exists_use?_of_findAll {i : Idiom} {r : Regex} {path : Text} {found : List Match}
    (hpath : i.signs.onPath path = true) (hcode : i.code = some r)
    (hfind : r.findAll t = m :: found) :
    ∃ u, i.use? [(path, t)] = some u ∧ u.examples = [i.matchExample path t m] := by
  have htext : i.signs.inText = some r.findAll := by rw [signs, hcode, Option.map_some]
  have hshow : i.showingBy? i.signs path t =
      some (found.length + 1, i.matchExample path t m) := by
    simp only [showingBy?, hpath, htext, hfind, if_true]
  rw [use?, useBy?]
  simp only [List.filterMap_cons, hshow, List.filterMap_nil]
  exact ⟨_, rfl, rfl⟩

/-- The excerpt of an idiom that decorators show is placed at the first of the blank lines above the
first decorator of the text. -/
theorem example_of_decorator {i : Idiom} (hi : i ∈ catalog) (hname : i.name ∈ decoratorNames)
    {path t : Text} (hpath : i.signs.onPath path = true)
    (hfound : ∃ r, i.code = some r ∧ r.findAll t ≠ []) :
    ∃ u e, i.use? [(path, t)] = some u ∧ u.examples = [e] ∧
      ∃ r m found, i.code = some r ∧ r.findAll t = m :: found ∧ PlacedAbove e path t m := by
  obtain ⟨rest, hcode⟩ := code_eq_lineDecorator hi hname
  obtain ⟨r, hr, hne⟩ := hfound
  obtain rfl : lineDecorator rest = r := Option.some.inj (hcode.symm.trans hr)
  obtain ⟨m, found, hfind⟩ := List.exists_cons_of_ne_nil hne
  obtain ⟨u, huse, hexamples⟩ := exists_use?_of_findAll hpath hcode hfind
  have hfirst : (lineDecorator rest).find? t = some m := by
    rw [find?, findFrom_eq_head?, ← findAll, hfind]
    rfl
  exact ⟨u, _, huse, hexamples, _, m, found, hcode, hfind, placedAbove_matchExample i path hfirst⟩

/-- A class of data below an import and seventeen blank lines. -/
def spaced : Text :=
  "from dataclasses import dataclass\n".toList ++ List.replicate 17 '\n' ++
    "@dataclass\nclass Point:\n    x: int\n".toList

/-- The excerpt of the class is placed at the first of the blank lines, below the import. -/
theorem example_of_spaced :
    ∃ i ∈ catalog, i.name ∈ decoratorNames ∧ i.signs.onPath "models.py" = true ∧
      (∃ r, i.code = some r ∧ r.findAll spaced ≠ []) ∧
      ∃ u e, i.use? [("models.py".toList, spaced)] = some u ∧ u.examples = [e] ∧
        ∃ r m found, i.code = some r ∧ r.findAll spaced = m :: found ∧
          PlacedAbove e "models.py" spaced m := by
  let i := catalog.get ⟨19, by decide⟩
  have hi : i ∈ catalog := List.get_mem _ _
  have hname : i.name ∈ decoratorNames := by decide +kernel
  have hpath : i.signs.onPath "models.py" = true := by decide +kernel
  have hfound : ∃ r, i.code = some r ∧ r.findAll spaced ≠ [] := ⟨_, rfl, by decide +kernel⟩
  exact ⟨i, hi, hname, hpath, hfound, example_of_decorator hi hname hpath hfound⟩

/-- It is not placed at the decorator, which is seventeen lines further down, and ends above it. -/
theorem decorator_of_spaced_not_shown :
    (∀ n, spaced[n]? = some '@' → lineOfOffset spaced n = 18) ∧
      ∃ i ∈ catalog, i.name = "Dataclass Models".toList ∧
        ∃ u e, i.use? [("models.py".toList, spaced)] = some u ∧ u.examples = [e] ∧
          e.id = "models.py-1".toList ∧ e.endLine = 17 ∧ '@' ∉ e.code := by
  let i := catalog.get ⟨19, by decide⟩
  have hline : ∀ n < spaced.length, spaced[n]? = some '@' → lineOfOffset spaced n = 18 := by
    decide +kernel
  have hshown : (i.use? [("models.py".toList, spaced)]).map (fun u =>
      u.examples.map fun e => (e.id, e.endLine, decide ('@' ∈ e.code))) =
        some [("models.py-1".toList, 17, false)] := by
    decide +kernel
  obtain ⟨u, huse, hexamples⟩ := Option.map_eq_some_iff.1 hshown
  obtain ⟨e, he, heq⟩ := List.map_eq_singleton_iff.1 hexamples
  simp only [Prod.mk.injEq, decide_eq_false_iff_not] at heq
  refine ⟨fun n hn => hline n (List.getElem?_eq_some_iff.1 hn).1 hn, i, List.get_mem _ _, ?_,
    u, e, huse, he, heq⟩
  decide +kernel

end Idiom
end CodeSurvey
