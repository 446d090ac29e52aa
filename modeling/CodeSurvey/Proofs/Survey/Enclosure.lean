import CodeSurvey.Proofs.FileSystem.Growth
import CodeSurvey.Proofs.Survey.Looks
import CodeSurvey.Proofs.Survey.Outcome
import CodeSurvey.Proofs.Text.Pieces

/-!
# Surveys stay inside

Steps that pass no link and do not ask for the parent stay below the location where they start, and
steps along folders pass nothing but these folders. The survey of a folder without links below it
therefore looks at that folder, at the folders above it and at what stands below it.

## Main results

* `FileSystem.LinkFree.prefix_of_mem_visitsBy`: steps stay below where they start.
* `Survey.LooksAt.above_or_below`: a survey looks at no location beside its folder.
-/

namespace CodeSurvey

/-! ## Paths of locations -/

namespace Path

/-- A slash separates the components before it from those behind it. -/
theorem parts_append_slash (s t : Text) : parts (s ++ '/' :: t) = parts s ++ parts t := by
  have hsplit : Text.splitOn '/' (s ++ '/' :: t) = Text.splitOn '/' s ++ Text.splitOn '/' t := by
    simp only [Text.splitOn_eq_list_splitOn]
    exact List.splitOn_append_cons_self s t
  rw [parts, hsplit, List.filter_append]
  rfl

variable {l : Location}

theorem parts_path (h : ∀ n ∈ l, ProperName n) : parts l.path = l := by
  have hparts := parts_append_slash [] (ofNames l)
  rw [parts_ofNames h] at hparts
  exact hparts

theorem parts_child_path (h : ∀ n ∈ l, ProperName n) (n : Text) :
    parts (child l.path n) = l ++ parts n := by
  have hparts := parts_append_slash l.path n
  rw [parts_path h] at hparts
  exact hparts

end Path

namespace FileSystem

theorem start_slash (here : Location) (path : Text) : start here ('/' :: path) = [] := by
  have hanchor : Path.anchor ('/' :: path) ≠ [] := by
    unfold Path.anchor
    split <;> simp_all
  rw [start, if_neg (by simpa using hanchor)]

theorem visits_point (fs : FileSystem) (here : Location) : fs.visits here ['.'] = [here] := rfl

variable {fs : FileSystem} {here l x : Location} {step : Text} {steps : List Text}
  {visit : Location → List Text → List Location}

/-- What a path leads to stands where it leads. -/
theorem entryAt?_of_stat {path : Text} {e : Entry} (h : fs.stat here path = .ok (l, e)) :
    fs.entryAt? l = some e := by
  rw [stat] at h
  split at h
  · simp at h
  · split at h
    · simp at h
    · split at h
      · rename_i hat
        obtain ⟨rfl, rfl⟩ := Prod.mk.inj (Except.ok.inj h)
        exact hat
      · simp at h

/-! ## Steps -/

/-- A step without a link is refused, stays or leads to what it names. -/
theorem LinkFree.turn (h : LinkFree fs here) (hstep : step ≠ ['.', '.']) :
    (∃ e, turn fs here step = .refused e) ∨ turn fs here step = .onward here ∨
      turn fs here step = .onward (here ++ [step]) := by
  rw [FileSystem.turn]
  split
  · split
    · exact .inr (.inl rfl)
    · rw [if_neg (by simpa using hstep)]
      split
      · exact .inl ⟨_, rfl⟩
      · cases hat : fs.entryAt? (here ++ [step]) with
        | none => exact .inl ⟨_, rfl⟩
        | some e =>
            cases e with
            | file | folder => exact .inr (.inr rfl)
            | link target => exact absurd hat (h [step] target)
  · exact .inl ⟨_, rfl⟩
  · exact .inl ⟨_, rfl⟩

/-- Steps that pass no link and do not ask for the parent stay below where they start. -/
theorem LinkFree.prefix_of_mem_visitsBy (h : LinkFree fs here)
    (hsteps : ∀ step ∈ steps, step ≠ ['.', '.']) (hx : x ∈ visitsBy fs visit here steps) :
    here <+: x := by
  induction steps generalizing here with
  | nil => exact List.mem_singleton.1 hx ▸ List.prefix_refl _
  | cons step steps ih =>
      have hrest : ∀ s ∈ steps, s ≠ ['.', '.'] := fun s hs => hsteps s (List.mem_cons_of_mem _ hs)
      rw [visitsBy] at hx
      rcases List.mem_cons.1 hx with rfl | hx
      · exact List.prefix_refl _
      rcases h.turn (hsteps step List.mem_cons_self) with ⟨e, hturn⟩ | hturn | hturn
      · rw [hturn] at hx
        exact List.mem_singleton.1 hx ▸ List.prefix_append _ _
      · rw [hturn] at hx
        exact ih h hrest hx
      · rw [hturn] at hx
        exact (List.prefix_append here [step]).trans (ih (h.append [step]) hrest hx)

/-- A step to a folder is refused or leads there. -/
theorem turn_of_folder {entries : List (Text × Entry)} (hstep : ProperName step)
    (hat : fs.entryAt? (here ++ [step]) = some (.folder entries)) :
    (∃ e, turn fs here step = .refused e) ∨ turn fs here step = .onward (here ++ [step]) := by
  rw [turn]
  split
  · simp only [List.isEmpty_iff, beq_iff_eq, Bool.or_eq_true, hstep.ne_nil, hstep.ne_point,
      hstep.ne_points, or_self, if_false]
    split
    · exact .inl ⟨_, rfl⟩
    · exact .inr (by rw [hat])
  · exact .inl ⟨_, rfl⟩
  · exact .inl ⟨_, rfl⟩

/-- Steps along folders pass these folders, before other steps follow. -/
theorem prefix_or_mem_of_mem_visitsBy {entries : List (Text × Entry)}
    (hat : fs.entryAt? (here ++ l) = some (.folder entries)) (hproper : ∀ n ∈ l, ProperName n)
    (hx : x ∈ visitsBy fs visit here (l ++ steps)) :
    x <+: here ++ l ∨ x ∈ visitsBy fs visit (here ++ l) steps := by
  induction l generalizing here with
  | nil => exact .inr (by simpa using hx)
  | cons n l ih =>
      have hn := hproper n List.mem_cons_self
      rw [List.append_cons] at hat ⊢
      rw [List.cons_append, visitsBy] at hx
      rcases List.mem_cons.1 hx with rfl | hx
      · exact .inl (by simp)
      obtain ⟨entries', hfolder⟩ : ∃ entries', fs.entryAt? (here ++ [n]) =
          some (.folder entries') := by
        cases l with
        | nil => exact ⟨entries, by simpa using hat⟩
        | cons m l => simpa using exists_folder_of_prefix hat (List.nil_prefix) (by simp)
      rcases turn_of_folder hn hfolder with ⟨e, hturn⟩ | hturn
      · rw [hturn] at hx
        exact .inl (List.mem_singleton.1 hx ▸ List.prefix_append _ _)
      · rw [hturn] at hx
        exact ih hat (fun m hm => hproper m (List.mem_cons_of_mem _ hm)) hx

/-- A relative path stays below where it starts. -/
theorem LinkFree.prefix_of_mem_visits {path : Text} (h : LinkFree fs here)
    (hrelative : Path.anchor path = []) (hsteps : ∀ step ∈ Path.parts path, step ≠ ['.', '.'])
    (hx : x ∈ fs.visits here path) : here <+: x := by
  rw [visits, start, if_pos (by simp [hrelative])] at hx
  exact h.prefix_of_mem_visitsBy hsteps hx

end FileSystem

/-! ## Surveys -/

namespace Survey

open FileSystem

variable {fs : FileSystem} {here root l : Location} {path : Text} {s : Settings} {o : Overrides}

/-- The stages of a survey look at nothing but what is below the folder. -/
theorem LooksBelow.below (h : LooksBelow fs root s l) (hfs : fs.Sound) (hfree : LinkFree fs root) :
    root <+: l := by
  cases h with
  | entry sees => exact List.prefix_append _ _
  | @link names _ target sees at_ visited => exact absurd at_ (hfree names target)
  | @name path _ surveyed visited =>
      have hinside : ∀ path ∈ surveyedNames, Path.anchor path = [] ∧
          ∀ step ∈ Path.parts path, step ≠ ['.', '.'] := by decide +kernel
      obtain ⟨hrelative, hsteps⟩ := hinside path surveyed
      exact hfree.prefix_of_mem_visits hrelative hsteps visited
  | @file path _ found visited =>
      -- The paths of the files are spelled by names, among which there is no step to the parent.
      obtain ⟨names, rfl, hlisted⟩ := (Snapshot.mem_files hfs).1 found
      have hproper : ∀ n ∈ names, ProperName n := by
        obtain ⟨_, hat⟩ | ⟨⟨_, hat⟩, -⟩ := hlisted.file
        all_goals exact fun n hn => (hfs.entryAt? hat).2 n (List.mem_append_right _ hn)
      refine hfree.prefix_of_mem_visits (Path.anchor_ofNames hproper) ?_ visited
      rw [Path.parts_ofNames hproper]
      exact fun n hn => (hproper n hn).ne_points

theorem rootOf_point [Host] {entries : List (Text × Entry)}
    (h : fs.entryAt? here = some (.folder entries)) : rootOf fs here ['.'] = .ok here := by
  have hstat : fs.stat here ['.'] = .ok (here, .folder entries) := by
    have hfits : Path.fits ['.'] = true := by decide
    have hlocate : locate fs (start here ['.']) (Path.parts ['.']) = .ok here := rfl
    rw [stat, hfits, hlocate]
    simp [h]
  exact rootOf_eq_ok_iff.2 ⟨['.'], entries, rfl, by decide, hstat⟩

/-- A survey looks at no location beside its folder, if none is on the way to the folder. -/
theorem LooksAt.above_or_below [Host] (h : LooksAt fs here path s o l) (hfs : fs.Sound)
    (hroot : rootOf fs here path = .ok root) (hfree : LinkFree fs root)
    (hway : ∀ p, Path.expanded? path = some p → ∀ l ∈ fs.visits here p, l <+: root ∨ root <+: l) :
    l <+: root ∨ root <+: l := by
  obtain ⟨p, entries, -, -, hstat⟩ := rootOf_eq_ok_iff.1 hroot
  have hat := entryAt?_of_stat hstat
  have hproper := (hfs.entryAt? hat).2
  cases h with
  | path expanded visited => exact hway _ expanded l visited
  | root leads visited =>
      obtain rfl := Except.ok.inj (hroot.symm.trans leads)
      rw [visits, Location.path, start_slash, ← Location.path, Path.parts_path hproper,
        ← List.append_nil root] at visited
      rcases prefix_or_mem_of_mem_visitsBy hat hproper visited with hl | hl
      · exact .inl hl
      · exact .inl (List.mem_singleton.1 hl ▸ List.prefix_refl _)
  | settings leads visited =>
      obtain rfl := Except.ok.inj (hroot.symm.trans leads)
      have hstart : start root (Path.child root.path settingsFileName) = [] := start_slash _ _
      rw [visits, hstart, Path.parts_child_path hproper] at visited
      rcases prefix_or_mem_of_mem_visitsBy hat hproper visited with hl | hl
      · exact .inl hl
      · exact .inr (hfree.prefix_of_mem_visitsBy (by decide) hl)
  | stage leads settled below =>
      obtain rfl := Except.ok.inj (hroot.symm.trans leads)
      exact .inr (below.below hfs hfree)

end Survey
end CodeSurvey
