import CodeSurvey.Proofs.FileSystem.Writing

/-!
# Looking up paths past written files

Following a path means to take one step after another, and each step looks at one location. A path
that looks at none of the files by which two file systems differ leads to the same in both of them.
Files that are opened for writing get the same place in both even if they are among those files.

## Main definitions

* `FileSystem.turn fs here step`: what one step comes to.
* `FileSystem.visits fs here path`: the locations that are looked at on the way of a path.
-/

namespace CodeSurvey
namespace FileSystem

/-- What a step comes to: it is refused, or the way goes on from a location, or over the steps of a
link first. -/
inductive Turn where
  | refused (error : OsError)
  | onward (l : Location)
  | link (l : Location) (steps : List Text)
deriving Repr, DecidableEq

/-- What one step comes to. -/
def turn (fs : FileSystem) (here : Location) (step : Text) : Turn :=
  match fs.entryAt? here with
  | some (.folder _) =>
    if step.isEmpty || step == ['.'] then .onward here
    else if step == ['.', '.'] then .onward here.dropLast
    else if 255 < (String.ofList step).utf8ByteSize then .refused .nameTooLong
    else match fs.entryAt? (here ++ [step]) with
      | none => .refused .noEntry
      | some (.link target) =>
        .link (if target.head? == some '/' then [] else here) (linkSteps target)
      | some _ => .onward (here ++ [step])
  | some _ => .refused .notFolder
  | none => .refused .noEntry

/-- The locations that steps look at, one by one; `onLink` gives those of the steps from a link
on. -/
def visitsBy (fs : FileSystem) (onLink : Location → List Text → List Location) :
    Location → List Text → List Location
  | here, [] => [here]
  | here, step :: rest =>
    here :: match turn fs here step with
      | .refused _ => [here ++ [step]]
      | .onward l => visitsBy fs onLink l rest
      | .link l steps => (here ++ [step]) :: onLink l (steps ++ rest)

/-- The locations that steps look at while at most the given number of links is passed. -/
def stepVisits (fs : FileSystem) : (links : Nat) → Location → List Text → List Location
  | 0 => visitsBy fs fun _ _ => []
  | links + 1 => visitsBy fs (stepVisits fs links)

/-- The locations that are looked at on the way of a path. -/
def visits (fs : FileSystem) (here : Location) (path : Text) : List Location :=
  stepVisits fs linkLimit (start here path) (Path.parts path)

variable {fs fs' : FileSystem} {W : Set Location} {here l x : Location} {step : Text}
  {steps : List Text} {onLink onLink' : Location → List Text → Except OsError Location}

/-! ## One step -/

theorem take_cons (onLink : Location → List Text → Except OsError Location) (here : Location)
    (step : Text) (steps : List Text) :
    take fs onLink here (step :: steps) =
      match turn fs here step with
      | .refused e => .error e
      | .onward l => take fs onLink l steps
      | .link l more => onLink l (more ++ steps) := by
  rw [take, turn]
  cases hat : fs.entryAt? here with
  | none => rfl
  | some e =>
      cases e with
      | file | link => rfl
      | folder entries =>
          simp only [entryAt?_concat hat]
          split
          · rfl
          split
          · rfl
          split
          · rfl
          cases Table.get? entries step with
          | none => rfl
          | some e => cases e <;> rfl

/-- A step is the same where the folder and what it names are. -/
theorem turn_eq_of_face
    (hhere : (fs.entryAt? here).map Entry.face = (fs'.entryAt? here).map Entry.face)
    (hstep : (fs.entryAt? (here ++ [step])).map Entry.face =
      (fs'.entryAt? (here ++ [step])).map Entry.face) :
    turn fs here step = turn fs' here step := by
  rw [turn, turn]
  rcases Entry.none_or_face_eq hhere with ⟨hat, hat'⟩ | ⟨e, e', hat, hat', hface⟩
  · rw [hat, hat']
  · rw [hat, hat']
    cases e <;> cases e' <;> simp only [Entry.face, reduceCtorEq] at hface
    case file | link => rfl
    case folder =>
      simp only
      rcases Entry.none_or_face_eq hstep with ⟨hget, hget'⟩ | ⟨c, c', hget, hget', hface⟩
      · rw [hget, hget']
      · rw [hget, hget']
        cases c <;> cases c' <;> simp_all [Entry.face]

theorem turn_of_not_folder (h : ∀ entries, fs.entryAt? here ≠ some (.folder entries))
    (step : Text) : ∃ e, turn fs here step = .refused e := by
  rw [turn]
  split
  · rename_i entries hat
    exact absurd hat (h entries)
  · exact ⟨_, rfl⟩
  · exact ⟨_, rfl⟩

/-- A step to a place is refused or leads there. -/
theorem turn_of_place (h : fs.IsPlace (here ++ [step])) :
    (∃ e, turn fs here step = .refused e) ∨ turn fs here step = .onward (here ++ [step]) := by
  have hproper := h.proper_last
  have hfile := fun e => h.exists_file (e := e)
  rw [turn]
  split
  · simp only [List.isEmpty_iff, beq_iff_eq, Bool.or_eq_true, hproper.ne_nil, hproper.ne_point,
      hproper.ne_points, or_self, if_false]
    split
    · exact .inl ⟨_, rfl⟩
    · cases hat : fs.entryAt? (here ++ [step]) with
      | none => exact .inl ⟨_, rfl⟩
      | some e =>
          obtain ⟨content, rfl⟩ := hfile e hat
          exact .inr rfl
  · exact .inl ⟨_, rfl⟩
  · exact .inl ⟨_, rfl⟩

/-! ## Places -/

/-- Steps from a file lead on only if there are none. -/
theorem take_of_not_folder (h : ∀ entries, fs.entryAt? here ≠ some (.folder entries)) :
    take fs onLink here steps = .ok x → x = here := by
  cases steps with
  | nil =>
      intro htake
      exact (Except.ok.inj htake).symm
  | cons step steps =>
      obtain ⟨e, hturn⟩ := turn_of_not_folder h step
      rw [take_cons, hturn]
      simp

/-- A step to a place leads no further than the place. -/
theorem take_cons_of_place (h : fs.IsPlace (here ++ [step])) :
    take fs onLink here (step :: steps) = .ok x → x = here ++ [step] := by
  rw [take_cons]
  rcases turn_of_place h with ⟨e, hturn⟩ | hturn
  · simp [hturn]
  · rw [hturn]
    refine take_of_not_folder fun entries hat => ?_
    exact h.folder_ne hat rfl

/-- Steps that lead past the changed files lead to the same location. -/
theorem AlikeOff.take_iff (h : AlikeOff W fs fs') (hx : x ∉ W)
    (hlink : ∀ here steps, onLink here steps = .ok x ↔ onLink' here steps = .ok x)
    (here : Location) (steps : List Text) :
    take fs onLink here steps = .ok x ↔ take fs' onLink' here steps = .ok x := by
  induction steps generalizing here with
  | nil => rw [take, take]
  | cons step steps ih =>
      -- A file ends the way, so steps that come to a changed one do not lead to `x`.
      by_cases hstep : here ++ [step] ∈ W
      · have hne : x ≠ here ++ [step] := fun heq => hx (heq ▸ hstep)
        exact iff_of_false (fun htake => hne (take_cons_of_place (h.place _ hstep) htake))
          fun htake => hne (take_cons_of_place (h.place' _ hstep) htake)
      · by_cases hhere : here ∈ W
        · have hfile : ∀ {fs : FileSystem}, fs.IsPlace here → ∀ entries,
              fs.entryAt? here ≠ some (.folder entries) :=
            fun hplace entries hat => hplace.folder_ne hat rfl
          obtain ⟨e, hturn⟩ := turn_of_not_folder (hfile (h.place _ hhere)) step
          obtain ⟨e', hturn'⟩ := turn_of_not_folder (hfile (h.place' _ hhere)) step
          rw [take_cons, take_cons, hturn, hturn']
          simp
        · rw [take_cons, take_cons, turn_eq_of_face (h.face _ hhere) (h.face _ hstep)]
          cases turn fs' here step with
          | refused e => rfl
          | onward l => exact ih l
          | link l more => exact hlink l (more ++ steps)

theorem AlikeOff.walkSteps_iff (h : AlikeOff W fs fs') (hx : x ∉ W) (links : Nat)
    (here : Location) (steps : List Text) :
    walkSteps fs links here steps = .ok x ↔ walkSteps fs' links here steps = .ok x := by
  induction links generalizing here steps with
  | zero => exact h.take_iff hx (fun _ _ => Iff.rfl) here steps
  | succ links ih => exact h.take_iff hx ih here steps

/-- The steps without the empty ones at their end. -/
def named (steps : List Text) : List Text := (steps.reverse.dropWhile List.isEmpty).reverse

/-- Whether some steps end in a name that the system takes for that of a file. -/
structure NamesFile (steps : List Text) (n : Text) : Prop where
  last : (named steps).getLast? = some n
  bare : (named steps).length = steps.length
  ne_point : n ≠ ['.']
  ne_points : n ≠ ['.', '.']
  short : (String.ofList n).utf8ByteSize ≤ 255

/-- A file gets a place in the folder that all steps but the last lead to. A link there is
followed. -/
theorem place_succ_eq_ok_iff {links : Nat} :
    place fs (links + 1) here steps = .ok l ↔ ∃ n d entries, NamesFile steps n ∧
      locate fs here (named steps).dropLast = .ok d ∧ fs.entryAt? d = some (.folder entries) ∧
      ((∃ target, fs.entryAt? (d ++ [n]) = some (.link target) ∧
          place fs links (if target.head? == some '/' then [] else d) (linkSteps target) = .ok l) ∨
        (∀ e, fs.entryAt? (d ++ [n]) = some e → ∃ content, e = .file content) ∧
          l = d ++ [n]) := by
  have hlength : (named steps).length ≤ steps.length := by
    simpa [named] using (List.dropWhile_suffix (l := steps.reverse) List.isEmpty).length_le
  rw [place, ← named]
  cases hlast : (named steps).getLast? with
  | none =>
      refine iff_of_false (by simp) ?_
      rintro ⟨n, d, entries, hnames, -⟩
      exact absurd hnames.last (by simp [hlast])
  | some n =>
      simp only
      constructor
      · intro hplace
        split at hplace
        · simp at hplace
        · rename_i d hlocate
          split at hplace
          · rename_i entries hat
            split at hplace
            · simp at hplace
            · rename_i hbare
              simp only [Bool.or_eq_true, decide_eq_true_eq, beq_iff_eq, not_or] at hbare
              split at hplace
              · simp at hplace
              · rename_i hshort
                refine ⟨n, d, entries, ⟨hlast, by omega, hbare.1.2, hbare.2, by omega⟩,
                  hlocate, hat, ?_⟩
                rw [← entryAt?_concat hat] at hplace
                split at hplace
                · rename_i target hlink
                  exact .inl ⟨target, hlink, hplace⟩
                · simp at hplace
                · rename_i hlink hfolder
                  refine .inr ⟨?_, (Except.ok.inj hplace).symm⟩
                  intro e he
                  cases e with
                  | file content => exact ⟨content, rfl⟩
                  | link target => exact absurd he (hlink target)
                  | folder entries => exact absurd he (hfolder entries)
          · simp at hplace
          · simp at hplace
      · rintro ⟨m, d, entries, hnames, hlocate, hat, hend⟩
        obtain rfl : n = m := Option.some.inj (hlast.symm.trans hnames.last)
        have hbare := hnames.bare
        have hshort := hnames.short
        rw [hlocate]
        simp only [hat, hbare, lt_irrefl, decide_false, Bool.false_or, Bool.or_eq_true, beq_iff_eq,
          hnames.ne_point, hnames.ne_points, or_self, if_false, not_lt.2 hshort]
        rw [← entryAt?_concat hat]
        rcases hend with ⟨target, hlink, hplace⟩ | ⟨hfile, rfl⟩
        · rw [hlink]
          simpa using hplace
        · cases he : fs.entryAt? (d ++ [n]) with
          | none => rfl
          | some e =>
              obtain ⟨content, rfl⟩ := hfile e he
              rfl

/-- The last of the steps that a file is named by can name an entry. -/
theorem NamesFile.proper {n : Text} (h : NamesFile steps n) (hsteps : ∀ s ∈ steps, '/' ∉ s) :
    ProperName n := by
  have hmem : n ∈ steps := by
    have hnamed := List.mem_of_getLast? h.last
    rw [named, List.mem_reverse] at hnamed
    exact List.mem_reverse.1 ((List.dropWhile_suffix _).mem hnamed)
  refine ⟨?_, hsteps n hmem, h.ne_point, h.ne_points⟩
  rintro rfl
  have hlast := h.last
  rw [named, List.getLast?_reverse] at hlast
  have hnot := List.head?_dropWhile_not (p := List.isEmpty) (l := steps.reverse)
  rw [hlast] at hnot
  simp at hnot

theorem slash_not_mem_linkSteps (target : Text) : ∀ s ∈ linkSteps target, '/' ∉ s :=
  fun _ hs => Text.not_mem_of_mem_splitOn hs

/-- The place of a file is one where a file can be written. -/
theorem isPlace_of_place {links : Nat} (hsteps : ∀ s ∈ steps, '/' ∉ s)
    (h : place fs links here steps = .ok l) : fs.IsPlace l := by
  induction links generalizing here steps with
  | zero => simp [place] at h
  | succ links ih =>
      obtain ⟨n, d, entries, hnames, -, hat, ⟨target, -, hplace⟩ | ⟨hfile, rfl⟩⟩ :=
        place_succ_eq_ok_iff.1 h
      · exact ih (slash_not_mem_linkSteps target) hplace
      · refine .intro (hnames.proper hsteps) hat fun e hget => hfile e ?_
        rw [entryAt?_concat hat, hget]

theorem placeOf_eq_ok_iff_place {path : Text} : fs.placeOf here path = .ok l ↔
    Path.fits path = true ∧
      place fs (linkLimit + 1) (start here path) (Path.parts path) = .ok l := by
  rw [placeOf]
  cases Path.fits path <;> simp

theorem isPlace_of_placeOf {path : Text} (h : fs.placeOf here path = .ok l) : fs.IsPlace l :=
  isPlace_of_place (fun _ hs => Text.not_mem_of_mem_splitOn (List.mem_filter.1 hs).1)
    (placeOf_eq_ok_iff_place.1 h).2

/-- Files that are opened in the same way get the same place, whatever stands in such places. -/
theorem AlikeOff.place_of_place (h : AlikeOff W fs fs') {links : Nat}
    (hplace : FileSystem.place fs links here steps = .ok l) :
    FileSystem.place fs' links here steps = .ok l := by
  induction links generalizing here steps with
  | zero => simp [FileSystem.place] at hplace
  | succ links ih =>
      obtain ⟨n, d, entries, hnames, hlocate, hat, hend⟩ := place_succ_eq_ok_iff.1 hplace
      obtain ⟨hd, entries', hat'⟩ := h.folder hat
      refine place_succ_eq_ok_iff.2 ⟨n, d, entries', hnames, ?_, hat', ?_⟩
      · exact (h.walkSteps_iff hd linkLimit here _).1 hlocate
      · rcases hend with ⟨target, hlink, hplace⟩ | ⟨hfile, rfl⟩
        · exact .inl ⟨target, h.link hlink, ih hplace⟩
        · exact .inr ⟨h.free hfile, rfl⟩

theorem AlikeOff.placeOf_eq_ok_iff (h : AlikeOff W fs fs') {path : Text} :
    fs.placeOf here path = .ok l ↔ fs'.placeOf here path = .ok l := by
  rw [placeOf_eq_ok_iff_place, placeOf_eq_ok_iff_place]
  exact and_congr_right' ⟨h.place_of_place, h.symm.place_of_place⟩

/-! ## Ways that pass no changed file -/

variable {visit : Location → List Text → List Location}

theorem mem_visitsBy_self (visit : Location → List Text → List Location) (here : Location)
    (steps : List Text) : here ∈ visitsBy fs visit here steps := by
  cases steps <;> simp [visitsBy]

/-- The location that steps lead to is looked at. -/
theorem mem_visitsBy_of_take
    (hlink : ∀ here steps, onLink here steps = .ok x → x ∈ visit here steps)
    (h : take fs onLink here steps = .ok x) : x ∈ visitsBy fs visit here steps := by
  induction steps generalizing here with
  | nil =>
      rw [take] at h
      simp [visitsBy, ← Except.ok.inj h]
  | cons step steps ih =>
      rw [take_cons] at h
      rw [visitsBy]
      cases hturn : turn fs here step with
      | refused e => simp [hturn] at h
      | onward l =>
          rw [hturn] at h
          exact List.mem_cons_of_mem _ (ih h)
      | link l more =>
          rw [hturn] at h
          exact List.mem_cons_of_mem _ (List.mem_cons_of_mem _ (hlink _ _ h))

/-- Steps that look at no changed file lead to the same. -/
theorem AlikeOff.take_eq (h : AlikeOff W fs fs')
    (hlink : ∀ here steps, (∀ l ∈ visit here steps, l ∉ W) →
      onLink here steps = onLink' here steps)
    (hvisits : ∀ l ∈ visitsBy fs visit here steps, l ∉ W) :
    take fs onLink here steps = take fs' onLink' here steps := by
  induction steps generalizing here with
  | nil => rw [take, take]
  | cons step steps ih =>
      have hhere := hvisits here (mem_visitsBy_self visit here _)
      rw [visitsBy] at hvisits
      -- Whether such a step is refused or taken, what it names is looked at.
      have hstep : here ++ [step] ∉ W := by
        intro hmem
        rcases turn_of_place (h.place _ hmem) with ⟨e, hturn⟩ | hturn
        · exact hvisits (here ++ [step]) (by simp [hturn]) hmem
        · refine hvisits (here ++ [step]) ?_ hmem
          rw [hturn]
          exact List.mem_cons_of_mem _ (mem_visitsBy_self visit _ steps)
      rw [take_cons, take_cons, ← turn_eq_of_face (h.face _ hhere) (h.face _ hstep)]
      cases hcase : turn fs here step with
      | refused e => rfl
      | onward l =>
          rw [hcase] at hvisits
          exact ih fun l hl => hvisits l (List.mem_cons_of_mem _ hl)
      | link l more =>
          rw [hcase] at hvisits
          exact hlink _ _ fun l hl => hvisits l (List.mem_cons_of_mem _ (List.mem_cons_of_mem _ hl))

theorem mem_stepVisits_of_walkSteps {links : Nat} (h : walkSteps fs links here steps = .ok x) :
    x ∈ stepVisits fs links here steps := by
  induction links generalizing here steps with
  | zero => exact mem_visitsBy_of_take (by simp) h
  | succ links ih => exact mem_visitsBy_of_take (fun _ _ => ih) h

theorem AlikeOff.walkSteps_eq (h : AlikeOff W fs fs') {links : Nat}
    (hvisits : ∀ l ∈ stepVisits fs links here steps, l ∉ W) :
    walkSteps fs links here steps = walkSteps fs' links here steps := by
  induction links generalizing here steps with
  | zero => exact h.take_eq (fun _ _ _ => rfl) hvisits
  | succ links ih => exact h.take_eq (fun _ _ => ih) hvisits

/-- A path that looks at no changed file leads to the same, or fails for the same reason. -/
theorem AlikeOff.stat_alike (h : AlikeOff W fs fs') {path : Text}
    (hvisits : ∀ l ∈ fs.visits here path, l ∉ W) :
    (∃ e, fs.stat here path = .error e ∧ fs'.stat here path = .error e) ∨
      ∃ l c c', fs.stat here path = .ok (l, c) ∧ fs'.stat here path = .ok (l, c') ∧
        c.face = c'.face := by
  rw [stat, stat, locate, locate, ← h.walkSteps_eq hvisits]
  split
  · exact .inl ⟨_, rfl, rfl⟩
  cases hwalk : walkSteps fs linkLimit (start here path) (Path.parts path) with
  | error e => exact .inl ⟨e, rfl, rfl⟩
  | ok l =>
      simp only
      have hface := h.face l (hvisits l (mem_stepVisits_of_walkSteps hwalk))
      rcases Entry.none_or_face_eq hface with ⟨hat, hat'⟩ | ⟨c, c', hat, hat', hface⟩
      · exact .inl ⟨.noEntry, by rw [hat], by rw [hat']⟩
      · exact .inr ⟨l, c, c', by rw [hat], by rw [hat'], hface⟩

end FileSystem
end CodeSurvey
