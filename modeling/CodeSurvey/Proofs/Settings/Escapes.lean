import CodeSurvey.Proofs.Command.Outcome
import CodeSurvey.Proofs.Settings.Precedence

/-!
# Files of settings whose failure is not told

A file of settings is loaded, or refused with a failure that the user is told, unless its bytes are
no text or the library for YAML fails in another way than by calling the text no YAML. Those two
failures get past the check of the file, and a command that meets one ends without a message.

## Main definitions

* `SettingsFile fs here path content`: a path leads to a file of settings with some content.
* `Settings.Escapes content e`: the failures of a file of settings that are not told.
* `AsksFor fs root here arguments t o log`: some arguments ask for a survey of a folder.
-/

namespace CodeSurvey

/-- Whether a path leads to a file of settings, directly or as the folder that holds it, with some
content. -/
def SettingsFile (fs : FileSystem) (here : Location) (path : Text) (content : ByteArray) : Prop :=
  ∃ l, fs.stat here (if fs.isFolder here path then Path.child path settingsFileName else path) =
    .ok (l, .file content)

/-! ## Loading a file -/

namespace Settings

/-- The failures that the content of a file of settings gives rise to and that are not told: it is
no text, or the library for YAML fails on its text and does not call it malformed. -/
inductive Escapes [Host] (content : ByteArray) : SettingsFailure → Prop
  | notUtf8 (h : Utf8.decode? content = none) : Escapes content .notUtf8
  | unread {t : Text} {fault : Yaml.Fault} (text : FileSystem.textOf content = .ok t)
      (filled : Text.isBlankLine t = false) (fails : Host.readYaml t = .error fault)
      (more : fault ≠ .malformed) : Escapes content (.unread fault)

variable {fs : FileSystem} {here : Location} {path : Text} {content : ByteArray}
  {e : SettingsFailure}

theorem textOf_eq_error_iff : (∃ f, FileSystem.textOf content = .error f) ↔
    Utf8.decode? content = none := by
  rw [FileSystem.textOf]
  split
  · rename_i h
    simp [h]
  · rename_i h
    simp [h]

/-- Reading the document in a file fails without being told exactly if the content escapes. -/
theorem documentOf_eq_error_iff [Host] (name : Text) :
    documentOf name content = .error e ∧ e.isReported = false ↔ Escapes content e := by
  constructor
  · rintro ⟨h, he⟩
    rw [documentOf] at h
    split at h
    · rename_i f hf
      obtain rfl := Except.error.inj h
      exact .notUtf8 (textOf_eq_error_iff.1 ⟨f, hf⟩)
    · rename_i t ht
      split at h
      · cases h
      · rename_i hfilled
        split at h
        · cases h
        · obtain rfl := Except.error.inj h
          cases he
        · rename_i fault hmore hfails
          obtain rfl := Except.error.inj h
          exact .unread ht (Bool.eq_false_iff.2 hfilled) hfails hmore
  · rintro (h | ⟨htext, hfilled, hfails, hmore⟩)
    · obtain ⟨f, hf⟩ := textOf_eq_error_iff.2 h
      refine ⟨?_, rfl⟩
      rw [documentOf, hf]
    · refine ⟨?_, rfl⟩
      simp [documentOf, htext, hfilled, hfails]

/-- Loading a file of settings fails without being told exactly if its content escapes. -/
theorem load_escapes_iff [Host] (h : SettingsFile fs here path content) (s : Settings) :
    load fs here path s = .error e ∧ e.isReported = false ↔ Escapes content e := by
  obtain ⟨l, hstat⟩ := h
  rw [← documentOf_eq_error_iff (l.getLastD [])]
  cases hdocument : documentOf (l.getLastD []) content with
  | error f =>
      have hload : load fs here path s = .error f := by
        unfold load
        simp only [hstat, ofFile, hdocument]
        rfl
      rw [hload, Except.error.injEq, Except.error.injEq]
  | ok v =>
      -- A document that is read is settings, or is refused with a failure that is told.
      have hload := settles_load ⟨l, content, hstat, hdocument⟩ s
      constructor
      · rintro ⟨hrefused, he⟩
        by_cases hsettings : IsSettings v
        · rw [hload.ok hsettings] at hrefused
          cases hrefused
        · obtain ⟨f, hf, htold⟩ := hload.refused hsettings
          obtain rfl := Except.error.inj (hf.symm.trans hrefused)
          rw [htold] at he
          cases he
      · rintro ⟨hrefused, -⟩
        cases hrefused

end Settings

/-! ## Commands -/

/-- Whether some arguments ask for a survey of a folder: they are understood and allowed, their log
file is open, and their path leads to the folder. -/
structure AsksFor [Host] (fs : FileSystem) (root here : Location) (arguments : List Text)
    (t : Terminal) (o : Options) (log : Option Location) : Prop where
  read : Invocation.read arguments = .survey o
  opened : o.logPlace t.files here = .ok log
  allowed : o.negativeField? = none
  files : openLog t.files log = fs
  root : Survey.rootOf fs here o.path = .ok root

/-- A command whose settings are not loaded makes no survey. -/
theorem AsksFor.result_eq [Host] {fs : FileSystem} {root here : Location}
    {arguments : List Text} {t : Terminal} {o : Options} {log : Option Location}
    {e : SettingsFailure} (h : AsksFor fs root here arguments t o log)
    (hload : Settings.load fs root root.path .standard = .error e) (clock : Clock) :
    (runCommand clock here arguments t).1 = failedSurvey (.settings e) (o.told here t log) := by
  have hmade : (o.survey here t log).result = .error (.settings e) := by
    rw [Options.survey, h.files, Survey.run, h.root, Traced.ofExcept_ok_bind, Survey.settingsOf,
      if_pos rfl, hload]
    rfl
  have hends : CommandEnds clock here arguments t _ _ _ _ :=
    .failed h.read h.opened h.allowed hmade
  obtain ⟨setup, hrun⟩ := hends.runCommand_eq
  rw [hrun]

/-- Loading a file of settings fails without being told exactly if its content is no text, or the
library for YAML fails on it and does not call it malformed. A command that asks for a survey of its
folder prints nothing where the settings are not loaded: it tells the user why and ends with the
status of a failure, or the failure escapes it. -/
theorem failures_of_settings_file [Host] {fs : FileSystem} {here : Location} {path : Text}
    {content : ByteArray} (h : SettingsFile fs here path content) :
    (∀ s e, Settings.load fs here path s = .error e ∧ e.isReported = false ↔
        Settings.Escapes content e) ∧
      ∀ (clock : Clock) (folder : Location) (arguments : List Text) (t : Terminal) (o : Options)
        (log : Option Location), AsksFor fs here folder arguments t o log → path = here.path →
        ∀ e, Settings.load fs here path .standard = .error e →
          let result := (runCommand clock folder arguments t).1
          result.standardOutput = [] ∧
            (Settings.Escapes content e → result.ending = .failed (.survey (.settings e))) ∧
            (¬Settings.Escapes content e → result.ending = .exit 1 ∧
              result.standardError = o.told folder t log ++ programName ++
                " analyze failed: ".toList ++ e.message ++ ['\n']) := by
  have hescapes : ∀ s e, Settings.load fs here path s = .error e ∧ e.isReported = false ↔
      Settings.Escapes content e := fun s e => Settings.load_escapes_iff h s
  refine ⟨hescapes, ?_⟩
  rintro clock folder arguments t o log hasks rfl e hload
  have hreported : e.isReported = false ↔ Settings.Escapes content e := by
    rw [← hescapes .standard e, hload]
    simp
  rw [hasks.result_eq hload clock]
  cases he : e.isReported with
  | true =>
      have hnot : ¬Settings.Escapes content e := by
        rw [← hreported, he]
        simp
      have hresult : failedSurvey (.settings e) (o.told folder t log) = ⟨.exit 1, [],
          o.told folder t log ++ programName ++ " analyze failed: ".toList ++ e.message ++
            ['\n']⟩ := if_pos he
      rw [hresult]
      exact ⟨rfl, fun h => absurd h hnot, fun _ => ⟨rfl, rfl⟩⟩
  | false =>
      have hresult : failedSurvey (.settings e) (o.told folder t log) =
          ⟨.failed (.survey (.settings e)), [], o.told folder t log⟩ :=
        if_neg (by simp [he])
      rw [hresult]
      exact ⟨rfl, fun _ => rfl, fun hnot => absurd (hreported.1 he) hnot⟩

attribute [local instance] Host.standard

/-- A repository with a file of settings that holds the given text. -/
def settledBy (t : Text) : FileSystem where
  top := [("repo", .folder [(".repoprofile.yml", .file (Utf8.encode t))])]

theorem settingsFile_settledBy (t : Text) :
    SettingsFile (settledBy t) ["repo"] "/repo" (Utf8.encode t) := ⟨["repo", settingsFileName], rfl⟩

theorem asksFor_settledBy (t : Text) :
    AsksFor (settledBy t) ["repo"] ["repo"] ["analyze"] ⟨settledBy t, none⟩ {} none where
  read := by decide +kernel
  opened := rfl
  allowed := rfl
  files := rfl
  root := rfl

/-- A negative limit is told, and a note of a day that is not in the calendar escapes. -/
theorem failures_of_negative_limit_and_of_bad_day :
    let negative : Text := "max_depth: -1\n"
    let misdated : Text := "note: 2024-02-30\n"
    let ending := fun t => (runCommand noon ["repo"] ["analyze"] ⟨settledBy t, none⟩).1.ending
    (SettingsFile (settledBy negative) ["repo"] "/repo" (Utf8.encode negative) ∧
      ending negative = .exit 1) ∧
    SettingsFile (settledBy misdated) ["repo"] "/repo" (Utf8.encode misdated) ∧
      ending misdated = .failed (.survey (.settings (.unread .badMoment))) := by
  intro negative misdated ending
  have hnegative : Settings.load (settledBy negative) ["repo"] "/repo" .standard =
      .error (.negative "max_depth") := by decide +kernel
  have hmisdated : Settings.load (settledBy misdated) ["repo"] "/repo" .standard =
      .error (.unread .badMoment) := by decide +kernel
  obtain ⟨-, hcommand⟩ := failures_of_settings_file (settingsFile_settledBy negative)
  obtain ⟨hescapes, hcommand'⟩ := failures_of_settings_file (settingsFile_settledBy misdated)
  have htold : ¬Settings.Escapes (Utf8.encode negative) (.negative "max_depth") := nofun
  have hbad := (hescapes .standard _).1 ⟨hmisdated, rfl⟩
  refine ⟨⟨settingsFile_settledBy negative, ?_⟩, settingsFile_settledBy misdated, ?_⟩
  · exact ((hcommand noon _ _ _ _ _ (asksFor_settledBy negative) rfl _ hnegative).2.2 htold).1
  · exact (hcommand' noon _ _ _ _ _ (asksFor_settledBy misdated) rfl _ hmisdated).2.1 hbad

/-- A repository whose file of settings is no text. -/
def unreadableSettings : FileSystem where
  top := [("repo", .folder [(".repoprofile.yml", .file ⟨#[0xff]⟩)])]

/-- Loading fails where the file of settings is no text; the failure is not told, and a command ends
without a message. -/
theorem failure_of_unreadableSettings :
    SettingsFile unreadableSettings ["repo"] "/repo" ⟨#[0xff]⟩ ∧
      Settings.load unreadableSettings ["repo"] "/repo" .standard = .error .notUtf8 ∧
      SettingsFailure.notUtf8.isReported = false ∧
      let result := (runCommand noon ["repo"] ["analyze"] ⟨unreadableSettings, none⟩).1
      result.ending = .failed (.survey (.settings .notUtf8)) ∧ result.standardError = [] := by
  refine ⟨⟨["repo", settingsFileName], rfl⟩, by decide +kernel, rfl, ?_⟩
  intro result
  exact ⟨by decide +kernel, by decide +kernel⟩

end CodeSurvey
