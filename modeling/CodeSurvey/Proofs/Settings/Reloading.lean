import CodeSurvey.Proofs.Settings.Precedence

/-!
# Settings that are loaded again

Loading settings on top of what was loaded from the same place changes nothing. The numbers of a
document are there already, and so are its extra patterns: the first time they are added unless they
are in force, and the second time all of them are.

## Main definitions

* `Settings.patternsBefore s v`, `Settings.extraPatterns v`: the patterns that a document leaves or
  puts in force, and those that it adds to them.
-/

namespace CodeSurvey

/-- What was added is not added again. -/
theorem addPatterns_addPatterns (current extra : List Text) :
    addPatterns (addPatterns current extra) extra = addPatterns current extra := by
  have hnone : extra.filter (fun p => !(addPatterns current extra).contains p) = [] := by
    rw [List.filter_eq_nil_iff]
    intro p hp
    simp only [addPatterns, Bool.not_eq_true', Bool.not_eq_false, List.contains_iff_mem,
      List.mem_append, List.mem_filter]
    by_cases hmem : p ∈ current
    · exact .inl hmem
    · exact .inr ⟨hp, by simpa using hmem⟩
  rw [addPatterns, hnone, List.append_nil]

/-- A pattern that is in force is not added; any other is added as often as it is given. -/
theorem count_addPatterns (current extra : List Text) (p : Text) :
    (addPatterns current extra).count p =
      if p ∈ current then current.count p else extra.count p := by
  rw [addPatterns, List.count_append]
  split
  · rename_i hmem
    have hnone : (extra.filter fun q => !current.contains q).count p = 0 := by
      rw [List.count_eq_zero]
      simp [hmem]
    rw [hnone, Nat.add_zero]
  · rename_i hmem
    rw [List.count_eq_zero.2 hmem, Nat.zero_add, List.count_filter]
    simpa using hmem

namespace Settings

variable {fs : FileSystem} {here : Location} {path : Text} {s loaded : Settings} {v : Yaml}

/-- The patterns that are in force before a document adds any: its own, or those of the settings. -/
def patternsBefore (s : Settings) (v : Yaml) : List Text :=
  ((v.given? ignoreFieldName).map Yaml.texts).getD s.ignorePatterns

/-- The patterns that a document adds. -/
def extraPatterns (v : Yaml) : List Text := ((v.given? extraFieldName).map Yaml.texts).getD []

theorem ignorePatterns_override_layerOf (s : Settings) (v : Yaml) :
    (s.override (s.layerOf v)).ignorePatterns =
      addPatterns (s.patternsBefore v) (extraPatterns v) := by
  simp only [override, layerOf, patternsWith, patternsBefore, extraPatterns]
  split
  · rename_i hnone
    rw [List.isEmpty_iff.1 hnone]
    simp [addPatterns]
  · cases (v.given? ignoreFieldName).map Yaml.texts <;> rfl

/-- Settings are their numbers and their patterns. -/
theorem ext_number {a b : Settings} (hnumber : ∀ f, a.number f = b.number f)
    (hpatterns : a.ignorePatterns = b.ignorePatterns) : a = b := by
  have hdepth := hnumber .maxDepth
  have hexamples := hnumber .maxExamples
  have hsize := hnumber .maxFileSizeKb
  have hquality := hnumber .qualitySampleLimit
  have hdocumentation := hnumber .documentationSampleLimit
  cases a
  cases b
  simp_all [number]

/-- A document says the same of the settings that it has made. -/
theorem override_layerOf_again (s : Settings) (v : Yaml) :
    (s.override (s.layerOf v)).override ((s.override (s.layerOf v)).layerOf v) =
      s.override (s.layerOf v) := by
  refine ext_number (fun f => ?_) ?_
  · rw [number_override, number_override]
    simp only [layerOf]
    cases (v.given? f.name).bind Yaml.integer? <;> rfl
  · rw [ignorePatterns_override_layerOf, ignorePatterns_override_layerOf, patternsBefore,
      ignorePatterns_override_layerOf]
    cases hgiven : v.given? ignoreFieldName with
    | none => exact addPatterns_addPatterns _ _
    | some w => simp [patternsBefore, hgiven]

/-- Settings are loaded from a document, or there is none and all settings stay as they are. -/
theorem load_eq_ok_cases [Host] (h : load fs here path s = .ok loaded) :
    (∃ v, SettingsDocument fs here path v ∧ IsSettings v ∧ loaded = s.override (s.layerOf v)) ∨
      loaded = s ∧ ∀ s', load fs here path s' = .ok s' := by
  cases hstat : fs.stat here
      (if fs.isFolder here path then Path.child path settingsFileName else path) with
  | error e =>
      unfold load at h ⊢
      simp only [hstat] at h ⊢
      cases e with
      | linkLoop | nameTooLong => simp at h
      | _ => exact .inr ⟨(Except.ok.inj h).symm, fun s' => rfl⟩
  | ok found =>
      obtain ⟨l, entry⟩ := found
      cases entry with
      | file content =>
          cases hdocument : documentOf (l.getLastD []) content with
          | error e =>
              unfold load at h
              simp only [hstat, ofFile, hdocument] at h
              cases h
          | ok v =>
              have hv : SettingsDocument fs here path v := ⟨l, content, hstat, hdocument⟩
              have hload := settles_load hv s
              by_cases hsettings : IsSettings v
              · exact .inl ⟨v, hv, hsettings, Except.ok.inj (h.symm.trans (hload.ok hsettings))⟩
              · obtain ⟨e, hrefused, -⟩ := hload.refused hsettings
                rw [hrefused] at h
                cases h
      | link target | folder entries =>
          unfold load at h
          simp only [hstat] at h
          cases h

/-- Settings that were loaded are loaded again as they are. An extra pattern stands in them as often
as before where it was in force, and elsewhere as often as the document gives it. -/
theorem load_again [Host] (fs : FileSystem) (here : Location) (path : Text)
    (s loaded : Settings) (h : load fs here path s = .ok loaded) :
    load fs here path loaded = .ok loaded ∧
      ∀ v, SettingsDocument fs here path v → ∀ p ∈ extraPatterns v,
        loaded.ignorePatterns.count p =
          if p ∈ s.patternsBefore v then (s.patternsBefore v).count p
          else (extraPatterns v).count p := by
  constructor
  · obtain ⟨v, hv, hsettings, rfl⟩ | ⟨-, hkept⟩ := load_eq_ok_cases h
    · rw [(settles_load hv _).ok hsettings, override_layerOf_again]
    · exact hkept loaded
  · intro v hv p _
    have hload := settles_load hv s
    by_cases hsettings : IsSettings v
    · rw [hload.ok hsettings] at h
      rw [← Except.ok.inj h, ignorePatterns_override_layerOf, count_addPatterns]
    · obtain ⟨e, hrefused, -⟩ := hload.refused hsettings
      rw [hrefused] at h
      cases h

attribute [local instance] Host.standard

/-- A repository that adds a pattern twice, one that is in force already, and a blank one. -/
def repeating : FileSystem where
  top := [("repo", .folder [(".repoprofile.yml", .file (Utf8.encode
    "max_depth: 3\nextra_ignore_patterns: [tmp, .git, tmp, ' ']\n".toList))])]

/-- What the repository of the example makes of the usual settings. -/
def repeatedSettings : Settings :=
  { Settings.standard with
    maxDepth := 3
    ignorePatterns := standardIgnorePatterns ++ ["tmp".toList, "tmp".toList] }

/-- Settings are loaded once and again, in the example and where a pattern is in force already. -/
theorem load_repeating_again :
    (load repeating ["repo"] "/repo" .standard = .ok repeatedSettings ∧
      load repeating ["repo"] "/repo" repeatedSettings = .ok repeatedSettings) ∧
    SettingsDocument tuned ["repo"] "/repo" tunedDocument ∧
    ∃ loaded, load tuned ["repo"] "/repo" .standard = .ok loaded ∧
      load tuned ["repo"] "/repo" loaded = .ok loaded ∧
      loaded.ignorePatterns.count ".git".toList = 1 ∧
      loaded.ignorePatterns.count "tmp".toList = 1 := by
  have hrepeating : load repeating ["repo"] "/repo" .standard = .ok repeatedSettings := by
    decide +kernel
  have htuned : load tuned ["repo"] "/repo" .standard =
      .ok (Settings.standard.override (Settings.standard.layerOf tunedDocument)) :=
    (settles_load settingsDocument_tuned _).ok isSettings_tunedDocument
  obtain ⟨hagain, hcounts⟩ := load_again _ _ _ _ _ htuned
  refine ⟨⟨hrepeating, (load_again _ _ _ _ _ hrepeating).1⟩, settingsDocument_tuned, _, htuned,
    hagain, ?_, ?_⟩
  · exact (hcounts _ settingsDocument_tuned ".git".toList (by decide +kernel)).trans
      (by decide +kernel)
  · exact (hcounts _ settingsDocument_tuned "tmp".toList (by decide +kernel)).trans
      (by decide +kernel)

end Settings

end CodeSurvey
