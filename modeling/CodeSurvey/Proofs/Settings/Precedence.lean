import CodeSurvey.Host.Standard
import CodeSurvey.Survey.Run
import Mathlib.Control.Monad.Basic

/-!
# Which settings count

A setting is taken from the overrides, else from the document in the file of settings, else from the
settings that are there already. The extra patterns of a document are added behind the patterns that
are in force. A document is taken as a whole or not at all: what it may hold is said here once, and
loading it either gives the settings of all three layers or refuses it with a failure that the user
is told.

## Main definitions

* `Yaml.given? v name`: what a document gives to a name.
* `IsSettings v`: what a document of settings may hold.
* `SettingsDocument fs here path v`: a path leads to settings, which are the document `v`.
* `Layered s v o loaded`: the settings that three layers make.
* `Settles good a x`: a check gives `a` where all is good, and is refused elsewhere.
-/

namespace CodeSurvey

/-! ## Documents -/

namespace Yaml

/-- What a document gives to a name. Only a mapping gives anything. -/
def given? : Yaml → Text → Option Yaml
  | mapping entries, name => lookup? entries name
  | _, _ => none

/-- The integer that a value is. -/
def integer? : Yaml → Option Int
  | int n => some n
  | _ => none

/-- Whether a value gives texts: none at all, one, or a list of them. -/
inductive GivesTexts : Yaml → Prop
  | null : GivesTexts null
  | string (t : Text) : GivesTexts (string t)
  | list (ts : List Text) : GivesTexts (list (ts.map Yaml.string))

/-- The texts that a value gives. Blank ones are left out of a list, but a text that stands alone is
taken as it is. -/
def texts : Yaml → List Text
  | string t => [t]
  | list items => (items.filterMap text?).filter fun t => !Text.isBlankLine t
  | _ => []

end Yaml

/-- What a document of settings may hold: nothing, or a mapping that gives only integers that are
not negative to the fields of numbers, and only texts to the two fields of patterns. -/
structure IsSettings (v : Yaml) : Prop where
  mapping : v = .null ∨ ∃ entries, v = .mapping entries
  numbers : ∀ f : NumberField, ∀ w ∈ v.given? f.name, ∃ n : Nat, w = .int n
  ignore : ∀ w ∈ v.given? ignoreFieldName, w.GivesTexts
  extra : ∀ w ∈ v.given? extraFieldName, w.GivesTexts

/-- Whether a path leads to a file of settings, directly or as the folder that holds it, in which
the document `v` stands. -/
def SettingsDocument [Host] (fs : FileSystem) (here : Location) (path : Text) (v : Yaml) :
    Prop :=
  ∃ l content,
    fs.stat here (if fs.isFolder here path then Path.child path settingsFileName else path) =
      .ok (l, .file content) ∧
    Settings.documentOf (l.getLastD []) content = .ok v

/-- The settings that come of some settings, a document and overrides: each field of a number has
the number of the uppermost layer that gives one, and so have the patterns, but that below an
override the extra patterns of the document follow those that they are not among. -/
structure Layered (s : Settings) (v : Yaml) (o : Overrides) (loaded : Settings) : Prop where
  number : ∀ f, loaded.number f =
    ((o.numbers f).or ((v.given? f.name).bind Yaml.integer?)).getD (s.number f)
  ignorePatterns : loaded.ignorePatterns = o.ignorePatterns.getD
    (let current := ((v.given? ignoreFieldName).map Yaml.texts).getD s.ignorePatterns
     current ++ (((v.given? extraFieldName).map Yaml.texts).getD []).filter (· ∉ current))

/-! ## Checks -/

/-- Whether a check gives a value where a condition is met, and elsewhere a failure that the user is
told. -/
structure Settles {α : Type} (good : Prop) (a : α) (x : Except SettingsFailure α) : Prop where
  ok : good → x = .ok a
  refused : ¬good → ∃ e, x = .error e ∧ e.isReported = true

namespace Settles

variable {α β : Type} {good more : Prop} {a : α} {b : β} {x : Except SettingsFailure α}

theorem of_ok (h : good) : Settles good a (.ok a) := ⟨fun _ => rfl, fun hnot => absurd h hnot⟩

theorem of_error {e : SettingsFailure} (h : ¬good) (he : e.isReported = true) :
    Settles good a (.error e) :=
  ⟨fun hgood => absurd hgood h, fun _ => ⟨e, rfl, he⟩⟩

/-- One check after another. -/
theorem bind (hx : Settles good a x) (f : α → Except SettingsFailure β)
    (hf : Settles more b (f a)) : Settles (good ∧ more) b (x >>= f) where
  ok h := by
    rw [hx.ok h.1]
    exact hf.ok h.2
  refused h := by
    by_cases hgood : good
    · rw [hx.ok hgood]
      exact hf.refused fun hmore => h ⟨hgood, hmore⟩
    · obtain ⟨e, rfl, he⟩ := hx.refused hgood
      exact ⟨e, rfl, he⟩

theorem map (hx : Settles good a x) (f : α → β) : Settles good (f a) (x.map f) where
  ok h := by
    rw [hx.ok h]
    rfl
  refused h := by
    obtain ⟨e, rfl, he⟩ := hx.refused h
    exact ⟨e, rfl, he⟩

theorem congr {c : α} (hx : Settles good a x) (h : good ↔ more) (hvalue : good → a = c) :
    Settles more c x where
  ok hmore := by
    rw [hx.ok (h.2 hmore), hvalue (h.2 hmore)]
  refused hnot := hx.refused fun hgood => hnot (h.1 hgood)

end Settles

/-! ## Values -/

theorem Yaml.all_isString_iff {items : List Yaml} :
    items.all isString = true ↔ ∃ ts : List Text, items = ts.map string := by
  induction items with
  | nil => exact iff_of_true rfl ⟨[], rfl⟩
  | cons item items ih =>
      rw [List.all_cons, Bool.and_eq_true, ih]
      constructor
      · rintro ⟨hitem, ts, rfl⟩
        cases item with
        | string t => exact ⟨t :: ts, rfl⟩
        | _ => simp [isString] at hitem
      · rintro ⟨ts, hts⟩
        obtain ⟨t, ts, rfl⟩ : ∃ t ts', ts = t :: ts' :=
          List.exists_cons_of_ne_nil (by rintro rfl; simp at hts)
        obtain ⟨rfl, rfl⟩ := List.cons.inj hts
        exact ⟨rfl, ts, rfl⟩

theorem settles_fieldNumber (field : Text) (v : Yaml) :
    Settles (∃ n : Nat, v = .int n) (v.integer?.getD 0) (fieldNumber field v) := by
  cases v with
  | int n =>
      rw [fieldNumber]
      split
      · rename_i hneg
        refine .of_error ?_ rfl
        rintro ⟨m, hm⟩
        obtain rfl := Yaml.int.inj hm
        omega
      · rename_i hnonneg
        exact .of_ok ⟨n.toNat, by rw [Int.toNat_of_nonneg (by omega)]⟩
  | _ => exact .of_error (by simp) rfl

theorem settles_fieldTexts (field : Text) (v : Yaml) :
    Settles v.GivesTexts v.texts (fieldTexts field v) := by
  cases v with
  | null => exact .of_ok .null
  | string t => exact .of_ok (.string t)
  | list items =>
      rw [fieldTexts]
      split
      · rename_i hall
        obtain ⟨ts, rfl⟩ := Yaml.all_isString_iff.1 hall
        exact .of_ok (.list ts)
      · rename_i hall
        refine .of_error ?_ rfl
        rintro ⟨⟩
        exact hall (Yaml.all_isString_iff.2 ⟨_, rfl⟩)
  | _ => exact .of_error nofun rfl

/-! ## Fields -/

section Fields

variable {entries : List (Yaml × Yaml)}

/-- Overrides with the numbers that some entries give to the fields of a list. -/
def withNumbers (entries : List (Yaml × Yaml)) (fields : List NumberField) (o : Overrides) :
    Overrides where
  numbers f :=
    if f ∈ fields then ((Yaml.lookup? entries f.name).bind Yaml.integer?).or (o.numbers f)
    else o.numbers f
  ignorePatterns := o.ignorePatterns

theorem withNumbers_cons_of_none {f : NumberField} {fields : List NumberField} {o : Overrides}
    (h : Yaml.lookup? entries f.name = none) :
    withNumbers entries (f :: fields) o = withNumbers entries fields o := by
  simp only [withNumbers, Overrides.mk.injEq, and_true]
  funext g
  by_cases hg : g = f
  · subst hg
    simp [h]
  · simp [hg]

theorem withNumbers_cons_of_some {f : NumberField} {fields : List NumberField} {o : Overrides}
    {n : Int} (h : Yaml.lookup? entries f.name = some (.int n)) :
    withNumbers entries (f :: fields) o = withNumbers entries fields (o.setNumber f n) := by
  simp only [withNumbers, Overrides.setNumber, Overrides.mk.injEq, and_true]
  funext g
  by_cases hg : g = f
  · subst hg
    simp [h, Yaml.integer?]
  · simp [hg]

/-- The fields of a list are given integers that are not negative, and these are taken over. -/
theorem settles_fieldNumbers (entries : List (Yaml × Yaml)) (fields : List NumberField)
    (o : Overrides) :
    Settles (∀ f ∈ fields, ∀ v ∈ Yaml.lookup? entries f.name, ∃ n : Nat, v = .int n)
      (withNumbers entries fields o) (fieldNumbers entries fields o) := by
  induction fields generalizing o with
  | nil => exact .of_ok (by simp)
  | cons f fields ih =>
      cases hgiven : Yaml.lookup? entries f.name with
      | none =>
          rw [fieldNumbers, hgiven, withNumbers_cons_of_none hgiven]
          exact (ih o).congr (by simp [hgiven]) fun _ => rfl
      | some v =>
          -- The check of one field, then those of the others with this number taken over.
          have hstep : fieldNumbers entries (f :: fields) o =
              fieldNumber f.name v >>= fun n => fieldNumbers entries fields (o.setNumber f n) := by
            simp only [fieldNumbers, hgiven]
            cases fieldNumber f.name v <;> rfl
          rw [hstep]
          refine ((settles_fieldNumber f.name v).bind _ (ih _)).congr ?_ ?_
          · rw [List.forall_mem_cons]
            simp [hgiven]
          · rintro ⟨⟨n, rfl⟩, -⟩
            exact (withNumbers_cons_of_some hgiven).symm

end Fields

/-! ## Documents of settings -/

namespace Settings

variable {s : Settings} {v : Yaml} {entries : List (Yaml × Yaml)}

/-- The patterns in force where some are given, and extra ones with them. -/
def patternsWith (s : Settings) (given : Option (List Text)) (extra : List Text) :
    Option (List Text) :=
  if extra.isEmpty then given else some (addPatterns (given.getD s.ignorePatterns) extra)

/-- The texts of a field that may be missing. -/
theorem settles_optionalTexts (field : Text) (w : Option Yaml) :
    Settles (∀ v ∈ w, v.GivesTexts) ((w.map Yaml.texts).getD [])
      (fieldTexts field (w.getD .null)) := by
  cases w with
  | none => exact .of_ok (by simp)
  | some v => exact (settles_fieldTexts field v).congr (by simp) fun _ => rfl

/-- The patterns of a document: those that it gives, and the extra ones. -/
theorem settles_patternsOf (s : Settings) (entries : List (Yaml × Yaml)) :
    Settles ((∀ w ∈ Yaml.lookup? entries ignoreFieldName, w.GivesTexts) ∧
        ∀ w ∈ Yaml.lookup? entries extraFieldName, w.GivesTexts)
      (s.patternsWith ((Yaml.lookup? entries ignoreFieldName).map Yaml.texts)
        (((Yaml.lookup? entries extraFieldName).map Yaml.texts).getD []))
      (s.patternsOf entries) := by
  let extra := Yaml.lookup? entries extraFieldName
  let rest (given : Option (List Text)) : Except SettingsFailure (Option (List Text)) :=
    fieldTexts extraFieldName (extra.getD .null) >>= fun extra =>
      if extra.isEmpty then pure given
      else pure (some (addPatterns (given.getD s.ignorePatterns) extra))
  have hrest : ∀ given, Settles (∀ w ∈ extra, w.GivesTexts)
      (s.patternsWith given ((extra.map Yaml.texts).getD [])) (rest given) := by
    intro given
    have hlast : Settles True (s.patternsWith given ((extra.map Yaml.texts).getD []))
        (if ((extra.map Yaml.texts).getD []).isEmpty then pure given
          else pure (some (addPatterns (given.getD s.ignorePatterns)
            ((extra.map Yaml.texts).getD [])))) := by
      unfold patternsWith
      split <;> exact .of_ok trivial
    have hboth := (settles_optionalTexts extraFieldName extra).bind (fun extra =>
      if extra.isEmpty then pure given
      else pure (some (addPatterns (given.getD s.ignorePatterns) extra))) hlast
    exact hboth.congr (by simp) fun _ => rfl
  unfold patternsOf
  cases hgiven : Yaml.lookup? entries ignoreFieldName with
  | none => exact (hrest none).congr (by simp [extra]) fun _ => rfl
  | some w =>
      have hboth := ((settles_fieldTexts ignoreFieldName w).map some).bind rest (hrest _)
      exact hboth.congr (by simp [extra]) fun _ => rfl

/-- Overrides with the patterns that are put in force, if there are some. -/
def withPatterns (o : Overrides) (patterns : Option (List Text)) : Overrides :=
  patterns.elim o o.setIgnore

theorem overridesOf_mapping (s : Settings) (entries : List (Yaml × Yaml)) :
    s.overridesOf (.mapping entries) =
      fieldNumbers entries NumberField.byName .none >>= fun o =>
        (s.patternsOf entries).map (withPatterns o) := by
  rw [overridesOf]
  cases fieldNumbers entries NumberField.byName .none with
  | error e => rfl
  | ok o =>
      cases s.patternsOf entries with
      | error e => rfl
      | ok patterns => cases patterns <;> rfl

theorem mem_byName (f : NumberField) : f ∈ NumberField.byName := by cases f <;> decide

/-- The new values that a document gives. -/
def layerOf (s : Settings) (v : Yaml) : Overrides where
  numbers f := (v.given? f.name).bind Yaml.integer?
  ignorePatterns := s.patternsWith ((v.given? ignoreFieldName).map Yaml.texts)
    (((v.given? extraFieldName).map Yaml.texts).getD [])

theorem withPatterns_withNumbers (entries : List (Yaml × Yaml)) (patterns : Option (List Text)) :
    withPatterns (withNumbers entries NumberField.byName .none) patterns =
      { numbers := fun f => (Yaml.lookup? entries f.name).bind Yaml.integer?
        ignorePatterns := patterns } := by
  have hnumbers : (withNumbers entries NumberField.byName .none).numbers =
      fun f => (Yaml.lookup? entries f.name).bind Yaml.integer? := by
    funext f
    simp [withNumbers, mem_byName, Overrides.none]
  cases patterns <;>
    simp [withPatterns, ← hnumbers, withNumbers, Overrides.none, Overrides.setIgnore]

/-- A document of settings gives its new values; any other is refused. -/
theorem settles_overridesOf (s : Settings) (v : Yaml) :
    Settles (IsSettings v) (s.layerOf v) (s.overridesOf v) := by
  cases v with
  | null =>
      refine .of_ok ⟨.inl rfl, ?_, ?_, ?_⟩
      all_goals simp [Yaml.given?]
  | mapping entries =>
      rw [overridesOf_mapping]
      refine ((settles_fieldNumbers entries NumberField.byName .none).bind _
        ((settles_patternsOf s entries).map _)).congr ?_ fun _ => ?_
      · constructor
        · rintro ⟨hnumbers, hignore, hextra⟩
          exact ⟨.inr ⟨entries, rfl⟩, fun f => hnumbers f (mem_byName f), hignore, hextra⟩
        · intro h
          exact ⟨fun f _ => h.numbers f, h.ignore, h.extra⟩
      · exact withPatterns_withNumbers entries _
  | _ => exact .of_error (fun h => by simpa using h.mapping) rfl

/-! ## Loading -/

/-- The layer of a document and the overrides make the settings. -/
theorem layered_override (s : Settings) (v : Yaml) (o : Overrides) :
    Layered s v o ((s.override (s.layerOf v)).override o) where
  number f := by
    rw [number_override, number_override, layerOf]
    cases o.numbers f <;> simp
  ignorePatterns := by
    simp only [override, layerOf, patternsWith, addPatterns]
    cases o.ignorePatterns with
    | some patterns => rfl
    | none =>
        simp only [Option.getD_none]
        split
        · rename_i hnone
          simp [List.isEmpty_iff.1 hnone]
        · simp

/-- Loading the settings of a document is settled by the document. -/
theorem settles_load [Host] {fs : FileSystem} {here : Location} {path : Text}
    (h : SettingsDocument fs here path v) (s : Settings) :
    Settles (IsSettings v) (s.override (s.layerOf v)) (load fs here path s) := by
  obtain ⟨l, content, hstat, hdocument⟩ := h
  have hload : load fs here path s = (s.overridesOf v).map s.override := by
    unfold load
    simp only [hstat, ofFile, hdocument]
    change (s.overridesOf v).bind (fun o => .ok (s.override o)) = _
    cases s.overridesOf v <;> rfl
  rw [hload]
  exact (settles_overridesOf s v).map _

end Settings

/-- Settings are loaded exactly if the document is one of settings, and any other is refused with a
failure that the user is told. What is loaded makes, with the overrides on top, the settings of the
three layers, and these are the settings of a survey of the folder. -/
theorem settings_of_three_layers [Host] (fs : FileSystem) (here : Location) (path : Text)
    (s : Settings) (o : Overrides) {v : Yaml} (h : SettingsDocument fs here path v) :
    ((∃ loaded, Settings.load fs here path s = .ok loaded) ↔ IsSettings v) ∧
      (∀ loaded, Settings.load fs here path s = .ok loaded →
        Layered s v o (loaded.override o) ∧
          (path = here.path → Survey.settingsOf fs here s true o = .ok (loaded.override o))) ∧
      ∀ e, Settings.load fs here path s = .error e →
        e.isReported = true ∧
          (path = here.path → Survey.settingsOf fs here s true o = .error (.settings e)) := by
  have hload := Settings.settles_load h s
  by_cases hsettings : IsSettings v
  · rw [hload.ok hsettings]
    refine ⟨iff_of_true ⟨_, rfl⟩ hsettings, ?_, nofun⟩
    rintro loaded ⟨⟩
    refine ⟨Settings.layered_override s v o, ?_⟩
    rintro rfl
    rw [Survey.settingsOf, if_pos rfl, hload.ok hsettings]
  · obtain ⟨e, hrefused, he⟩ := hload.refused hsettings
    rw [hrefused]
    refine ⟨iff_of_false (by simp) hsettings, nofun, ?_⟩
    rintro e' ⟨⟩
    refine ⟨he, ?_⟩
    rintro rfl
    rw [Survey.settingsOf, if_pos rfl, hrefused]

attribute [local instance] Host.standard

/-- A repository with a limit of its own and with patterns to be added, of which one is in force
already and one is blank. -/
def tuned : FileSystem where
  top := [("repo", .folder [(".repoprofile.yml", .file (Utf8.encode
    "max_depth: 3\nextra_ignore_patterns: [tmp, .git, ' ']\n".toList))])]

/-- The document in its file of settings. -/
def tunedDocument : Yaml := .mapping [(.string "max_depth", .int 3),
  (.string "extra_ignore_patterns", .list (["tmp", ".git", " "].map fun t => .string t.toList))]

/-- Whether a result is the document of the example. -/
def isTunedDocument : Except SettingsFailure Yaml → Bool
  | .ok (.mapping [(.string a, .int 3), (.string b, .list [.string x, .string y, .string z])]) =>
      decide (a = "max_depth".toList ∧ b = "extra_ignore_patterns".toList ∧ x = "tmp".toList ∧
        y = ".git".toList ∧ z = " ".toList)
  | _ => false

theorem eq_of_isTunedDocument {x : Except SettingsFailure Yaml} (h : isTunedDocument x = true) :
    x = .ok tunedDocument := by
  unfold isTunedDocument at h
  split at h
  · obtain ⟨rfl, rfl, rfl, rfl, rfl⟩ := of_decide_eq_true h
    rfl
  · simp at h

theorem settingsDocument_tuned : SettingsDocument tuned ["repo"] "/repo" tunedDocument := by
  refine ⟨_, _, rfl, eq_of_isTunedDocument ?_⟩
  decide +kernel

theorem given?_tunedDocument (f : NumberField) :
    tunedDocument.given? f.name = if f = .maxDepth then some (.int 3) else none := by
  cases f <;> rfl

theorem isSettings_tunedDocument : IsSettings tunedDocument where
  mapping := .inr ⟨_, rfl⟩
  numbers f w hw := by
    rw [given?_tunedDocument] at hw
    split at hw
    · exact ⟨3, (Option.some.inj hw).symm⟩
    · simp at hw
  ignore w hw := by
    have hnone : tunedDocument.given? ignoreFieldName = none := rfl
    simp [hnone] at hw
  extra w hw := by
    obtain rfl := Option.some.inj (show some _ = some w from hw)
    exact .list (["tmp", ".git", " "].map String.toList)

/-- The settings of the example, whose limit of files is overridden. -/
theorem settings_of_tuned :
    SettingsDocument tuned ["repo"] "/repo" tunedDocument ∧ ∃ loaded,
      Settings.load tuned ["repo"] "/repo" .standard = .ok loaded ∧
        let final := loaded.override (Overrides.none.setNumber .qualitySampleLimit 7)
        (final.maxDepth, final.qualitySampleLimit, final.maxExamples) = (3, 7, 5) ∧
          final.ignorePatterns = standardIgnorePatterns ++ ["tmp".toList] := by
  refine ⟨settingsDocument_tuned, ?_⟩
  obtain ⟨hsettings, hloaded, -⟩ := settings_of_three_layers tuned ["repo"] "/repo" .standard
    (Overrides.none.setNumber .qualitySampleLimit 7) settingsDocument_tuned
  obtain ⟨loaded, hload⟩ := hsettings.2 isSettings_tunedDocument
  have hlayered := (hloaded loaded hload).1
  refine ⟨loaded, hload, ?_, ?_⟩
  · refine Prod.ext ?_ (Prod.ext ?_ ?_)
    · exact (hlayered.number .maxDepth).trans (by rfl)
    · exact (hlayered.number .qualitySampleLimit).trans (by rfl)
    · exact (hlayered.number .maxExamples).trans (by rfl)
  · exact hlayered.ignorePatterns.trans (by decide +kernel)

end CodeSurvey
