import CodeSurvey.Proofs.Command.Outcome
import CodeSurvey.Proofs.Log.Delivery
import CodeSurvey.Proofs.Survey.Enclosure

/-!
# Commands one after the other

Commands that follow each other share the file system and what was set up for records. If no file
that one of them may write is looked at by a survey of another, and no output file is a log file,
then each of them ends as it would end alone, and a log file holds what each of them would have
added to it alone, in their order.

## Main definitions

* `CommandResult.seen`: what a caller sees of a command.
* `Apart fs here calls`: the calls write no file that a survey of theirs looks at.

## Main results

* `commands_do_not_interfere`: commands that are apart end as they end alone.
* `Apart.of_outside`: commands that write outside of a repository without links are apart.
-/

namespace CodeSurvey

/-- What a caller sees of the end of a command: its exit status, or the failure of its survey. The
reason for which a file that it is to write cannot be opened is left out: a file that another
command has made may stand where there was none. -/
def Ending.seen : Ending → Option (Nat ⊕ SurveyFailure)
  | exit n => some (.inl n)
  | failed (.survey e) => some (.inr e)
  | failed .tooDeep => some (.inr .tooDeep)
  | failed (.logFile _) | failed (.output _) => none

/-- What a caller sees of a command: its end and its two streams. -/
def CommandResult.seen (r : CommandResult) : Option (Nat ⊕ SurveyFailure) × Text × Text :=
  (r.ending.seen, r.standardOutput, r.standardError)

/-- The locations of the files that some calls may write. -/
def targetsOf (fs : FileSystem) (here : Location) (calls : List (List Text)) : Set Location :=
  {l | ∃ a ∈ calls, IsLog fs here a l ∨ IsOutput fs here a l}

/-- Whether a call comes to a survey that looks at a location. -/
def LooksFor [Host] (fs : FileSystem) (here : Location) (arguments : List Text) (l : Location) :
    Prop :=
  ∃ (o : Options) (log : Option Location), Invocation.read arguments = .survey o ∧
    o.logPlace fs here = .ok log ∧ o.negativeField? = none ∧
    Survey.LooksAt fs here o.path .standard o.overrides l

/-- Whether no file that some calls may write is looked at by a survey that one of them makes, and
no output file is a log file. -/
structure Apart [Host] (fs : FileSystem) (here : Location) (calls : List (List Text)) : Prop where
  unseen : ∀ a ∈ calls, ∀ l, LooksFor fs here a l → l ∉ targetsOf fs here calls
  logs : ∀ a ∈ calls, ∀ b ∈ calls, ∀ l, IsOutput fs here a l → ¬IsLog fs here b l

/-! ## Contents -/

namespace FileSystem

variable {fs fs' : FileSystem} {W : Set Location} {log : Option Location} {texts : List Text}
  {output : Option (Location × Text)} {l x : Location}

theorem contentAt_of_entryAt? {content : ByteArray} (h : fs.entryAt? l = some (.file content)) :
    fs.contentAt l = content := by
  rw [contentAt, h]

theorem contentAt_congr
    (h : (fs.entryAt? l).map Entry.face = (fs'.entryAt? l).map Entry.face) :
    fs.contentAt l = fs'.contentAt l := by
  rw [contentAt, contentAt]
  rcases Entry.none_or_face_eq h with ⟨hat, hat'⟩ | ⟨e, e', hat, hat', hface⟩
  · rw [hat, hat']
  · rw [hat, hat']
    cases e <;> cases e' <;> simp_all [Entry.face]

theorem IsPlace.contentAt_put (h : fs.IsPlace l) (content : ByteArray) (x : Location) :
    (fs.put l (.file content)).contentAt x = if x = l then content else fs.contentAt x := by
  split
  · rename_i hx
    subst hx
    exact contentAt_of_entryAt? (h.entryAt?_put_self content)
  · rename_i hx
    refine contentAt_congr ?_
    rw [h.face_entryAt?_put, if_neg hx]

theorem IsPlace.contentAt_extend (h : fs.IsPlace l) (more : Text) (x : Location) :
    (fs.extend l more).contentAt x =
      fs.contentAt x ++ Utf8.encode (if x = l then more else []) := by
  rw [extend, h.contentAt_put]
  split
  · rename_i hx
    rw [hx]
  · rw [Utf8.encode_nil, ByteArray.append_empty]

/-- A file gets texts one after the other. -/
theorem IsPlace.contentAt_foldl_extend (h : fs.IsPlace l) (texts : List Text) (x : Location) :
    (texts.foldl (fun fs t => fs.extend l t) fs).contentAt x =
      fs.contentAt x ++ Utf8.encode (if x = l then texts.flatten else []) := by
  induction texts generalizing fs with
  | nil => simp [Utf8.encode_nil]
  | cons text texts ih =>
      have hl : (fs.extend l text).IsPlace l := h.of_put h _
      rw [List.foldl_cons, ih hl, h.contentAt_extend, ByteArray.append_assoc,
        ← Utf8.encode_append]
      split <;> simp

/-- What stands in any file but the output file: the log file gets the texts. -/
theorem contentAt_changed_of_ne (hW : ∀ l ∈ W, fs.IsPlace l) (hlog : ∀ l ∈ log, l ∈ W)
    (houtput : ∀ p ∈ output, p.1 ∈ W) (hne : ∀ p ∈ output, x ≠ p.1) :
    (fs.changed log texts output).contentAt x =
      fs.contentAt x ++ Utf8.encode (if log = some x then texts.flatten else []) := by
  have hlogged : (fs.changed log texts none).contentAt x =
      fs.contentAt x ++ Utf8.encode (if log = some x then texts.flatten else []) := by
    cases log with
    | none => simp [changed, Utf8.encode_nil]
    | some l =>
        have hl := (hW l (hlog l rfl)).contentAt_foldl_extend texts x
        simpa [changed, eq_comm] using hl
  cases output with
  | none => exact hlogged
  | some p =>
      have halike : AlikeOff W fs (fs.changed log texts none) :=
        (AlikeOff.refl hW).changed hlog (by simp)
      have hput := (halike.place' _ (houtput p rfl)).contentAt_put (Utf8.encode p.2) x
      rw [if_neg (hne p rfl), hlogged] at hput
      exact hput

/-- The output file holds what is written. -/
theorem entryAt?_changed_output (hW : ∀ l ∈ W, fs.IsPlace l) (hlog : ∀ l ∈ log, l ∈ W) {text : Text}
    (hl : l ∈ W) : (fs.changed log texts (some (l, text))).entryAt? l =
      some (.file (Utf8.encode text)) := by
  have halike : AlikeOff W fs (fs.changed log texts none) :=
    (AlikeOff.refl hW).changed hlog (by simp)
  exact (halike.place' l hl).entryAt?_put_self _

theorem sound_changed (hW : ∀ l ∈ W, fs.IsPlace l) (hlog : ∀ l ∈ log, l ∈ W)
    (houtput : ∀ p ∈ output, p.1 ∈ W) (hfs : fs.Sound) : (fs.changed log texts output).Sound := by
  have hput : ∀ l ∈ W, ∀ fs' content, AlikeOff W fs fs' ∧ fs'.Sound →
      AlikeOff W fs (fs'.put l (.file content)) ∧ (fs'.put l (.file content)).Sound := by
    rintro l hl fs' content ⟨halike, hsound⟩
    exact ⟨halike.put hl content, (halike.place' l hl).sound_put hsound content⟩
  exact (changed_keeps (P := fun fs' => AlikeOff W fs fs' ∧ fs'.Sound)
    (fun l hl => hput l (hlog l hl)) (fun p hp => hput p.1 (houtput p hp)) ⟨.refl hW, hfs⟩).2

end FileSystem

/-! ## One command -/

section Command

variable {clock : Clock} {here : Location} {arguments : List Text} {t t' : Terminal}
  {log : Option Location} {o : Options}

/-- What was set up for records before plays no part. -/
theorem recordsFor_eq (before : Option LogSetup) (w : LogWish) (target : LogTarget)
    (rs : List LogRecord) : recordsFor before w target rs = recordsFor none w target rs := by
  simp only [recordsFor, deliveries, LogStep.change]
  rw [setUpLog_eq w true (before.getD .fresh)]
  rfl

theorem openLog_eq_changed (fs : FileSystem) (log : Option Location) :
    openLog fs log = fs.changed log [[]] none := by
  cases log <;> rfl

/-- One survey is told in the same way, whatever was set up before. -/
theorem told_eq [Host] (h : o.survey here t log = o.survey here t' log) :
    o.told here t log = o.told here t' log := by
  rw [Options.told, Options.told, Options.records, Options.records, h, errorText, errorText,
    recordsFor_eq t.logging, recordsFor_eq t'.logging]

theorem added_eq [Host] (h : o.survey here t log = o.survey here t' log) :
    o.added clock here t log = o.added clock here t' log := by
  rw [Options.added, Options.added, Options.records, Options.records, h, logText, logText]
  simp only [logFileText, recordsFor_eq t.logging, recordsFor_eq t'.logging]

end Command

section Alone

variable {clock : Clock} {fs : FileSystem} {here : Location} {arguments : List Text} {t : Terminal}
  {T : Set Location} {r : CommandResult} {log : Option Location} {texts : List Text}
  {output : Option (Location × Text)}

open FileSystem

/-- The survey of a request is the same in file systems that differ in unseen files alone. -/
theorem survey_eq_alone [Host] (h : AlikeOff T fs t.files) (hfs : fs.Sound) (ht : t.files.Sound)
    (hlog : ∀ l, IsLog fs here arguments l → l ∈ T)
    (hunseen : ∀ l, LooksFor fs here arguments l → l ∉ T) {o : Options}
    (read : Invocation.read arguments = .survey o) (opened : o.logPlace fs here = .ok log)
    (allowed : o.negativeField? = none) :
    o.survey here t log = o.survey here ⟨fs, none⟩ log := by
  have hlogs : ∀ l ∈ log, l ∈ T := fun l hl => hlog l ⟨o, read, hl ▸ opened⟩
  have hlooks : ∀ l, Survey.LooksAt fs here o.path .standard o.overrides l → l ∉ T := fun l hl =>
    hunseen l ⟨o, log, read, opened, allowed, hl⟩
  have hopen : ∀ fs', AlikeOff T fs fs' → fs'.Sound →
      Survey.run fs here o.path .standard true o.overrides =
        Survey.run (openLog fs' log) here o.path .standard true o.overrides := by
    intro fs' halike hsound
    rw [openLog_eq_changed]
    exact (halike.changed hlogs (by simp)).run_eq hfs
      (sound_changed halike.place' hlogs (by simp) hsound) hlooks
  rw [Options.survey, Options.survey, ← hopen _ h ht, ← hopen _ (.refl h.place) hfs]

/-- The log file of a request has one place in file systems that differ in files at places alone. -/
theorem logPlace_eq_ok_iff_of_alike (h : AlikeOff T fs t.files) (o : Options) :
    o.logPlace t.files here = .ok log ↔ o.logPlace fs here = .ok log := by
  simp only [logPlace_eq_ok_iff, h.placeOf_eq_ok_iff]

/-- A command ends as it would alone, but that the reason for which a file cannot be opened may be
another. -/
theorem CommandEnds.of_alone [Host] (h : AlikeOff T fs t.files) (hfs : fs.Sound)
    (ht : t.files.Sound) (hlog : ∀ l, IsLog fs here arguments l → l ∈ T)
    (hunseen : ∀ l, LooksFor fs here arguments l → l ∉ T)
    (hends : CommandEnds clock here arguments ⟨fs, none⟩ r log texts output) :
    ∃ r', r'.seen = r.seen ∧ CommandEnds clock here arguments t r' log texts output := by
  have hopened : ∀ {o : Options} {log : Option Location}, o.logPlace fs here = .ok log →
      o.logPlace t.files here = .ok log := fun opened =>
    (logPlace_eq_ok_iff_of_alike h _).2 opened
  have hsurvey : ∀ {o : Options} {log : Option Location}, Invocation.read arguments = .survey o →
      o.logPlace fs here = .ok log → o.negativeField? = none →
      o.survey here t log = o.survey here ⟨fs, none⟩ log :=
    survey_eq_alone h hfs ht hlog hunseen
  have hlogs : ∀ l ∈ log, l ∈ T := fun l hl => hlog l (hends.isLog hl)
  -- What the two runs have written before the document is given out differs in files of `T` alone.
  have hchanged : ∀ texts,
      AlikeOff T (fs.changed log texts none) (t.files.changed log texts none) :=
    fun texts => ((AlikeOff.refl h.place).changed hlogs (by simp)).symm.trans
      (h.changed hlogs (by simp))
  cases hends with
  | help read => exact ⟨_, rfl, .help read⟩
  | refused read => exact ⟨_, rfl, .refused read⟩
  | @noLog o e read log =>
      cases hlog : o.logPlace t.files here with
      | error e' => exact ⟨⟨.failed (.logFile e'), [], []⟩, rfl, .noLog read hlog⟩
      | ok log' =>
          rw [logPlace_eq_ok_iff_of_alike h] at hlog
          simp [hlog] at log
  | negative read opened negative => exact ⟨_, rfl, .negative read (hopened opened) negative⟩
  | failed read opened allowed made =>
      have hs := hsurvey read opened allowed
      rw [← told_eq hs, ← added_eq hs]
      exact ⟨_, rfl, .failed read (hopened opened) allowed (hs ▸ made)⟩
  | tooDeep read opened allowed made deep =>
      have hs := hsurvey read opened allowed
      rw [← told_eq hs, ← added_eq hs]
      exact ⟨_, rfl, .tooDeep read (hopened opened) allowed (hs ▸ made) deep⟩
  | printed read opened allowed made shallow output =>
      have hs := hsurvey read opened allowed
      rw [← told_eq hs, ← added_eq hs]
      exact ⟨_, rfl, .printed read (hopened opened) allowed (hs ▸ made) shallow output⟩
  | @noOutput o log survey file e read opened allowed made shallow output noPlace =>
      have hs := hsurvey read opened allowed
      rw [← added_eq hs] at noPlace
      rw [← told_eq hs, ← added_eq hs]
      cases hplace : (t.files.changed log (o.added clock here t log) none).placeOf here file with
      | error e' =>
          exact ⟨⟨.failed (.output e'), [], _⟩, rfl,
            .noOutput read (hopened opened) allowed (hs ▸ made) shallow output hplace⟩
      | ok l =>
          rw [← (hchanged _).placeOf_eq_ok_iff] at hplace
          simp [hplace] at noPlace
  | written read opened allowed made shallow output place =>
      have hs := hsurvey read opened allowed
      rw [← added_eq hs] at place
      rw [← told_eq hs, ← added_eq hs]
      exact ⟨_, rfl, .written read (hopened opened) allowed (hs ▸ made) shallow output
        ((hchanged _).placeOf_eq_ok_iff.1 place)⟩

end Alone

/-! ## Sequences -/

section Sequence

variable {clock : Clock} {fs : FileSystem} {here : Location} {calls : List (List Text)}
  {a : List Text} {t : Terminal}

open FileSystem

/-- Whether a terminal can be left by some calls: the file system is sound and differs from the
first one in their files alone. -/
structure Reached (fs : FileSystem) (here : Location) (calls : List (List Text)) (t : Terminal) :
    Prop where
  alike : AlikeOff (targetsOf fs here calls) fs t.files
  sound : t.files.Sound

/-- Whether a call does at a terminal what it does alone, where `added` is what it adds to each
file. -/
structure AsAlone [Host] (clock : Clock) (fs : FileSystem) (here : Location)
    (a : List Text) (added : Location → Text) (t : Terminal) : Prop where
  seen : (runCommand clock here a t).1.seen = (runCommand clock here a ⟨fs, none⟩).1.seen
  output : ∀ l, IsOutput fs here a l → (runCommand clock here a ⟨fs, none⟩).1.ending = .exit 0 →
    (runCommand clock here a t).2.files.entryAt? l =
      (runCommand clock here a ⟨fs, none⟩).2.files.entryAt? l
  content : ∀ l, ¬IsOutput fs here a l → (runCommand clock here a t).2.files.contentAt l =
    t.files.contentAt l ++ Utf8.encode (added l)

theorem isPlace_of_mem_targetsOf {l : Location} (h : l ∈ targetsOf fs here calls) :
    fs.IsPlace l := by
  obtain ⟨a, -, hlog | houtput⟩ := h
  · exact IsLog.isPlace (t := ⟨fs, none⟩) hlog
  · exact IsOutput.isPlace (t := ⟨fs, none⟩) houtput

theorem Reached.start (hfs : fs.Sound) (setup : Option LogSetup) :
    Reached fs here calls ⟨fs, setup⟩ :=
  ⟨.refl fun _ => isPlace_of_mem_targetsOf, hfs⟩

/-- One call of several does what it does alone, wherever the others have led. -/
theorem Apart.exists_added [Host] (clock : Clock) (h : Apart fs here calls) (hfs : fs.Sound)
    (ha : a ∈ calls) : ∃ added : Location → Text, (∀ l, ¬IsLog fs here a l → added l = []) ∧
      ∀ t, Reached fs here calls t → AsAlone clock fs here a added t ∧
        Reached fs here calls (runCommand clock here a t).2 := by
  obtain ⟨r, log, texts, output, halone⟩ := exists_commandEnds clock here a ⟨fs, none⟩
  have hlogs : ∀ l, IsLog fs here a l → l ∈ targetsOf fs here calls := fun l hl => ⟨a, ha, .inl hl⟩
  have hlog : ∀ l ∈ log, l ∈ targetsOf fs here calls := fun l hl => hlogs l (halone.isLog hl)
  have houtput : ∀ p ∈ output, p.1 ∈ targetsOf fs here calls := fun p hp =>
    ⟨a, ha, .inr (halone.isOutput hp)⟩
  refine ⟨fun l => if log = some l then texts.flatten else [], ?_, ?_⟩
  · intro l hl
    exact if_neg fun hlog => hl (halone.isLog hlog)
  · intro t ht
    obtain ⟨r', hseen, hends⟩ := halone.of_alone ht.alike hfs ht.sound hlogs (h.unseen a ha)
    obtain ⟨setup, hrun⟩ := hends.runCommand_eq
    obtain ⟨setup', hrun'⟩ := halone.runCommand_eq
    refine ⟨⟨?_, ?_, ?_⟩, ?_, ?_⟩
    · rw [hrun, hrun']
      exact hseen
    · intro l hl hending
      rw [hrun'] at hending
      obtain ⟨text, rfl⟩ := halone.exists_output hending hl
      have hmem : l ∈ targetsOf fs here calls := houtput _ rfl
      rw [hrun, hrun', entryAt?_changed_output ht.alike.place' hlog hmem,
        entryAt?_changed_output ht.alike.place hlog hmem]
    · intro l hl
      rw [hrun]
      exact contentAt_changed_of_ne ht.alike.place' hlog houtput fun p hp heq =>
        hl (heq ▸ halone.isOutput hp)
    · rw [hrun]
      exact ht.alike.changed hlog houtput
    · rw [hrun]
      exact sound_changed ht.alike.place' hlog houtput ht.sound

theorem runCommands_concat [Host] (before : List (List Text)) (a : List Text) (t : Terminal) :
    runCommands clock here (before ++ [a]) t =
      ((runCommands clock here before t).1 ++
          [(runCommand clock here a (runCommands clock here before t).2).1],
        (runCommand clock here a (runCommands clock here before t).2).2) := by
  induction before generalizing t with
  | nil => rfl
  | cons b before ih =>
      simp only [List.cons_append, runCommands, ih]

/-- What some of the calls do, one after the other, if each of them does what it does alone. -/
theorem runCommands_as_alone [Host] {added : List Text → Location → Text}
    (hstep : ∀ a ∈ calls, ∀ t, Reached fs here calls t → AsAlone clock fs here a (added a) t ∧
      Reached fs here calls (runCommand clock here a t).2)
    {part : List (List Text)} (hsub : ∀ a ∈ part, a ∈ calls) (ht : Reached fs here calls t) :
    Reached fs here calls (runCommands clock here part t).2 ∧
      (runCommands clock here part t).1.map CommandResult.seen =
        (part.map fun a => (runCommand clock here a ⟨fs, none⟩).1.seen) ∧
      ∀ l, (∀ a ∈ part, ¬IsOutput fs here a l) →
        (runCommands clock here part t).2.files.contentAt l =
          t.files.contentAt l ++ Utf8.encode (part.flatMap fun a => added a l) := by
  induction part generalizing t with
  | nil =>
      refine ⟨ht, rfl, fun l _ => ?_⟩
      rw [List.flatMap_nil, Utf8.encode_nil, ByteArray.append_empty]
      rfl
  | cons a part ih =>
      obtain ⟨halone, hreached⟩ := hstep a (hsub a List.mem_cons_self) t ht
      obtain ⟨hfinal, hseen, hcontent⟩ :=
        ih (fun b hb => hsub b (List.mem_cons_of_mem _ hb)) hreached
      rw [runCommands]
      refine ⟨hfinal, ?_, fun l hl => ?_⟩
      · simp only [List.map_cons, halone.seen, hseen]
      · rw [hcontent l fun b hb => hl b (List.mem_cons_of_mem _ hb),
          halone.content l (hl a List.mem_cons_self), ByteArray.append_assoc, ← Utf8.encode_append,
          List.flatMap_cons]

/-- Commands that follow each other do not influence each other if they are apart. Each ends as it
ends alone, with the same text on both streams, and leaves in its output file what it leaves there
alone; in the end every log file holds, behind what it held before, what each of the calls that ask
for it adds to it alone, in their order. -/
theorem commands_do_not_interfere [Host] (clock : Clock) {fs : FileSystem} {here : Location}
    {calls : List (List Text)} (hfs : fs.Sound) (h : Apart fs here calls)
    (setup : Option LogSetup) :
    let alone := fun a => runCommand clock here a ⟨fs, none⟩
    let run := fun calls => runCommands clock here calls ⟨fs, setup⟩
    (run calls).1.map CommandResult.seen = calls.map (fun a => (alone a).1.seen) ∧
      (∀ before a after, calls = before ++ a :: after → ∀ l, IsOutput fs here a l →
        (alone a).1.ending = .exit 0 →
        (run (before ++ [a])).2.files.entryAt? l = (alone a).2.files.entryAt? l) ∧
      ∀ b ∈ calls, ∀ l, IsLog fs here b l → ∃ added : List Text → Text,
        (∀ a ∈ calls, (alone a).2.files.contentAt l = fs.contentAt l ++ Utf8.encode (added a)) ∧
        (∀ a ∈ calls, ¬IsLog fs here a l → added a = []) ∧
        (run calls).2.files.contentAt l = fs.contentAt l ++ Utf8.encode (calls.flatMap added) := by
  intro alone run
  choose! added hadded hstep using fun a ha => h.exists_added clock hfs (a := a) ha
  have hstart : Reached fs here calls ⟨fs, setup⟩ := .start hfs setup
  obtain ⟨-, hseen, hcontent⟩ := runCommands_as_alone hstep (fun _ ha => ha) hstart
  refine ⟨hseen, ?_, ?_⟩
  · rintro before a after hcalls l hl hending
    have hbefore : ∀ b ∈ before, b ∈ calls := fun b hb => by simp [hcalls, hb]
    obtain ⟨hreached, -⟩ := runCommands_as_alone hstep hbefore hstart
    have hrun : run (before ++ [a]) = _ := runCommands_concat before a ⟨fs, setup⟩
    rw [hrun]
    exact (hstep a (by simp [hcalls]) _ hreached).1.output l hl hending
  · intro b hb l hl
    have houtput : ∀ a ∈ calls, ¬IsOutput fs here a l := fun a ha ho => h.logs a ha b hb l ho hl
    refine ⟨fun a => added a l, fun a ha => ?_, fun a ha => hadded a ha l, hcontent l houtput⟩
    exact (hstep a ha _ (.start hfs none)).1.content l (houtput a ha)

end Sequence

/-! ## Writing outside -/

section Outside

open FileSystem

variable {fs : FileSystem} {here : Location} {calls : List (List Text)}
  {entries : List (Text × Entry)}

/-- Calls that survey the folder where they are made, write outside of it and mix up no output file
with a log file are apart, if there are no links in the folder. -/
theorem Apart.of_outside [Host] (hfs : fs.Sound)
    (hfolder : fs.entryAt? here = some (.folder entries)) (hfree : LinkFree fs here)
    (hpath : ∀ a ∈ calls, ∀ o, Invocation.read a = .survey o → o.path = ['.'])
    (houtside : ∀ l ∈ targetsOf fs here calls, ¬here <+: l)
    (hlogs : ∀ a ∈ calls, ∀ b ∈ calls, ∀ l, IsOutput fs here a l → ¬IsLog fs here b l) :
    Apart fs here calls where
  unseen := by
    rintro a ha l ⟨o, log, hread, -, -, hlooks⟩ hl
    rw [hpath a ha o hread] at hlooks
    have hway : ∀ p, Path.expanded? ['.'] = some p →
        ∀ l ∈ fs.visits here p, l <+: here ∨ here <+: l := by
      rintro p hp l hl
      obtain rfl := Option.some.inj hp
      rw [visits_point, List.mem_singleton] at hl
      exact .inl (hl ▸ List.prefix_refl _)
    rcases hlooks.above_or_below hfs (Survey.rootOf_point hfolder) hfree hway with habove | hbelow
    · -- No file can be written where a folder is that leads to the repository.
      obtain ⟨entries', hat⟩ : ∃ entries', fs.entryAt? l = some (.folder entries') := by
        by_cases hne : l = here
        · exact ⟨entries, hne ▸ hfolder⟩
        · exact exists_folder_of_prefix (show fs.entryAt? ([] ++ here) = _ from hfolder) habove hne
      exact (isPlace_of_mem_targetsOf hl).folder_ne hat rfl
    · exact houtside l hl hbelow
  logs := hlogs

end Outside

section Beside

open FileSystem

attribute [local instance] Host.standard

theorem sound_surveyedBefore : surveyedBefore.Sound := by
  simp [FileSystem.Sound, surveyedBefore, Table.names, properName_iff]

/-- There is nothing but a module below the repository. -/
theorem linkFree_surveyedBefore : LinkFree surveyedBefore ["repo"] := by
  intro l target hat
  cases l with
  | nil => simp [surveyedBefore, FileSystem.entryAt?, Entry.at?, Table.get?_cons] at hat
  | cons n l =>
      obtain ⟨e, hget, hat⟩ := Option.bind_eq_some_iff.1
        (show (Table.get? [("app.py".toList, Entry.file ⟨#[120]⟩)] n).bind (·.at? l) =
          some (.link target) from hat)
      obtain ⟨rfl, rfl⟩ := Prod.mk.inj (List.mem_singleton.1 (Table.mem_of_get? hget))
      cases l <;> simp [Entry.at?] at hat

/-- Calls that write beside the repository: records, a document, and records of a refused call. -/
def callsBeside : List (List Text) :=
  [["analyze", "-v", "--log-file", "../run.log"], ["analyze", "-o", "../out.json"],
    ["analyze", "--max-depth", "-1", "--log-file", "../run.log"]]

theorem read_callsBeside {a : List Text} (ha : a ∈ callsBeside) : ∃ o : Options,
    Invocation.read a = .survey o ∧ o.path = ['.'] ∧
      (o.output = none ∨ o.output = some "../out.json".toList) ∧
      (o.logFile = none ∨ o.logFile = some "../run.log".toList) := by
  simp only [callsBeside, List.mem_cons, List.not_mem_nil, or_false] at ha
  rcases ha with rfl | rfl | rfl
  · exact ⟨{ verbose := true, logFile := some "../run.log" }, by decide +kernel, rfl, .inl rfl,
      .inr rfl⟩
  · exact ⟨{ output := some "../out.json" }, by decide +kernel, rfl, .inr rfl, .inl rfl⟩
  · exact ⟨{ maxDepth := some (-1), logFile := some "../run.log" }, by decide +kernel, rfl,
      .inl rfl, .inr rfl⟩

theorem placeOf_log : surveyedBefore.placeOf [] (plainLocation ["repo"] "../run.log").path =
    .ok ["run.log"] := by decide +kernel

theorem eq_of_isLog_callsBeside {a : List Text} {l : Location} (ha : a ∈ callsBeside)
    (h : IsLog surveyedBefore ["repo"] a l) : l = ["run.log"] := by
  obtain ⟨o, hread, -, -, hlog⟩ := read_callsBeside ha
  obtain ⟨o', hread', hplace⟩ := h
  obtain rfl := Invocation.survey.inj (hread.symm.trans hread')
  obtain ⟨-, hnone⟩ | ⟨file, l', hfile, hplace, hl⟩ := logPlace_eq_ok_iff.1 hplace
  · simp at hnone
  · obtain rfl := Option.some.inj hl
    obtain hnone | hlog := hlog
    · simp [hnone] at hfile
    · obtain rfl := Option.some.inj (hlog.symm.trans hfile)
      exact (Except.ok.inj (placeOf_log.symm.trans hplace)).symm

theorem eq_of_isOutput_callsBeside {a : List Text} {l : Location} (ha : a ∈ callsBeside)
    (h : IsOutput surveyedBefore ["repo"] a l) : l = ["out.json"] := by
  have hplace : surveyedBefore.placeOf ["repo"] "../out.json" = .ok ["out.json"] := by
    decide +kernel
  obtain ⟨o, hread, -, houtput, -⟩ := read_callsBeside ha
  obtain ⟨o', file, hread', hfile, hplace'⟩ := h
  obtain rfl := Invocation.survey.inj (hread.symm.trans hread')
  obtain hnone | houtput := houtput
  · simp [hnone] at hfile
  · obtain rfl := Option.some.inj (houtput.symm.trans hfile)
    exact (Except.ok.inj (hplace.symm.trans hplace')).symm

theorem apart_callsBeside : Apart surveyedBefore ["repo"] callsBeside := by
  refine .of_outside sound_surveyedBefore rfl linkFree_surveyedBefore ?_ ?_ ?_
  · intro a ha o hread
    obtain ⟨o', hread', hpath, -⟩ := read_callsBeside ha
    obtain rfl := Invocation.survey.inj (hread.symm.trans hread')
    exact hpath
  · rintro l ⟨a, ha, hlog | houtput⟩
    · obtain rfl := eq_of_isLog_callsBeside ha hlog
      simp
    · obtain rfl := eq_of_isOutput_callsBeside ha houtput
      simp
  · intro a ha b hb l houtput hlog
    have h := (eq_of_isOutput_callsBeside ha houtput).symm.trans (eq_of_isLog_callsBeside hb hlog)
    simp at h

/-- Each of the calls ends as it does alone, and the log file gets the records of each. -/
theorem records_beside_document :
    (surveyedBefore.Sound ∧ Apart surveyedBefore ["repo"] callsBeside) ∧
      (runCommands noon ["repo"] callsBeside ⟨surveyedBefore, none⟩).1.map CommandResult.seen =
        callsBeside.map (fun a => (runCommand noon ["repo"] a ⟨surveyedBefore, none⟩).1.seen) ∧
      (runCommands noon ["repo"] [["analyze", "-v", "--log-file", "../run.log"],
          ["analyze", "-o", "../out.json"]] ⟨surveyedBefore, none⟩).2.files.entryAt? ["out.json"] =
        (runCommand noon ["repo"] ["analyze", "-o", "../out.json"]
          ⟨surveyedBefore, none⟩).2.files.entryAt? ["out.json"] ∧
      ∃ added : List Text → Text, added ["analyze", "-o", "../out.json"] = [] ∧
        (∀ a ∈ callsBeside, (runCommand noon ["repo"] a ⟨surveyedBefore, none⟩).2.files.contentAt
          ["run.log"] = Utf8.encode (added a)) ∧
        (runCommands noon ["repo"] callsBeside ⟨surveyedBefore, none⟩).2.files.contentAt
          ["run.log"] = Utf8.encode (callsBeside.flatMap added) := by
  have houtput : IsOutput surveyedBefore ["repo"] ["analyze", "-o", "../out.json"] ["out.json"] :=
    ⟨{ output := some "../out.json" }, "../out.json", by decide +kernel, rfl, by decide +kernel⟩
  have hlog : IsLog surveyedBefore ["repo"] ["analyze", "-v", "--log-file", "../run.log"]
      ["run.log"] :=
    ⟨{ verbose := true, logFile := some "../run.log" }, by decide +kernel, by decide +kernel⟩
  have hnoLog : ¬IsLog surveyedBefore ["repo"] ["analyze", "-o", "../out.json"] ["run.log"] := by
    rintro ⟨o, hread, hplace⟩
    have hread' : Invocation.read ["analyze", "-o", "../out.json"] =
        .survey { output := some "../out.json" } := by decide +kernel
    obtain rfl := Invocation.survey.inj (hread'.symm.trans hread)
    simp [Options.logPlace] at hplace
  have hending : (runCommand noon ["repo"] ["analyze", "-o", "../out.json"]
      ⟨surveyedBefore, none⟩).1.ending = .exit 0 := by decide +kernel
  have hempty : ∀ text, surveyedBefore.contentAt ["run.log"] ++ Utf8.encode text =
      Utf8.encode text := fun _ => ByteArray.empty_append
  obtain ⟨hseen, hwritten, hlogged⟩ :=
    commands_do_not_interfere noon sound_surveyedBefore apart_callsBeside none
  -- As they stand, the runs in these statements and in the goal are compared by evaluating them.
  beta_reduce at hseen hwritten hlogged
  have hsecond := hwritten [_] _ [_] rfl _ houtput hending
  rw [List.singleton_append] at hsecond
  obtain ⟨added, halone, hnone, hall⟩ := hlogged _ (.head _) _ hlog
  exact ⟨⟨sound_surveyedBefore, apart_callsBeside⟩, hseen, hsecond, added,
    hnone _ (.tail _ (.head _)) hnoLog, fun a ha => (halone a ha).trans (hempty _),
    hall.trans (hempty _)⟩

end Beside

end CodeSurvey
