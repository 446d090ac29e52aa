import CodeSurvey.Proofs.FileSystem.Growth
import CodeSurvey.Proofs.FileSystem.Visits

/-!
# Added entries

A file system is enlarged by entries that are added to it and by new contents of its files, while
all that it had stays in its place, links with their targets. Resolving a path then takes the same
turns as before, so that whatever was found by its names is found by them again.

## Main definitions

* `FileSystem.Enlarged fs fs'`: all that stands in `fs` stands in `fs'` too.
* `FileSystem.StillFound fs root fs' root'`: what names lead to below `root` is there below `root'`.
-/

namespace CodeSurvey
namespace FileSystem

/-- Whether everything in a file system has a counterpart at the same location of another: a file
for a file, a folder for a folder and a link with the same target for a link. -/
structure Enlarged (fs fs' : FileSystem) : Prop extends Grown fs [] fs' [] where
  link : ∀ l target, fs.entryAt? l = some (.link target) → fs'.entryAt? l = some (.link target)

/-- Whether everything that names lead to below one location is found by the same names below
another, and every folder as a folder. Links are followed on the way. -/
structure StillFound (fs : FileSystem) (root : Location) (fs' : FileSystem) (root' : Location) :
    Prop where
  present : ∀ l, (∀ n ∈ l, ProperName n) → fs.present root (Path.ofNames l) = true →
    fs'.present root' (Path.ofNames l) = true
  folder : ∀ l, (∀ n ∈ l, ProperName n) → fs.isFolder root (Path.ofNames l) = true →
    fs'.isFolder root' (Path.ofNames l) = true

variable {fs fs' : FileSystem} {here root x : Location} {step : Text}

namespace Enlarged

theorem exists_file (h : fs.Enlarged fs') {l : Location} {content : ByteArray}
    (hat : fs.entryAt? l = some (.file content)) :
    ∃ content', fs'.entryAt? l = some (.file content') :=
  h.file l content hat

theorem exists_folder (h : fs.Enlarged fs') {l : Location} {entries : List (Text × Entry)}
    (hat : fs.entryAt? l = some (.folder entries)) :
    ∃ entries', fs'.entryAt? l = some (.folder entries') :=
  h.folder l entries hat

/-- A step that leads on still leads on, and to the same location. -/
theorem turn_eq (h : fs.Enlarged fs') (hturn : ∀ e, turn fs here step ≠ .refused e) :
    turn fs' here step = turn fs here step := by
  rw [turn] at hturn
  rw [turn, turn]
  cases hat : fs.entryAt? here with
  | none => simp [hat] at hturn
  | some e =>
      cases e with
      | file | link => simp [hat] at hturn
      | folder entries =>
          obtain ⟨entries', hat'⟩ := h.exists_folder hat
          simp only [hat] at hturn
          simp only [hat']
          split
          · rfl
          split
          · rfl
          split
          · rfl
          rename_i hpoint hpoints hshort
          simp only [hpoint, hpoints, hshort, if_false] at hturn
          cases hbelow : fs.entryAt? (here ++ [step]) with
          | none => simp [hbelow] at hturn
          | some c =>
              cases c with
              | file content =>
                  obtain ⟨content', hfile⟩ := h.exists_file hbelow
                  rw [hfile]
              | folder below =>
                  obtain ⟨below', hfolder⟩ := h.exists_folder hbelow
                  rw [hfolder]
              | link target => rw [h.link _ target hbelow]

/-- Steps that lead somewhere still lead there, if those over links do. -/
theorem take_eq_ok (h : fs.Enlarged fs')
    {onLink onLink' : Location → List Text → Except OsError Location}
    (honLink : ∀ here steps, onLink here steps = .ok x → onLink' here steps = .ok x)
    {steps : List Text} (htake : take fs onLink here steps = .ok x) :
    take fs' onLink' here steps = .ok x := by
  induction steps generalizing here with
  | nil => simpa [take] using htake
  | cons step steps ih =>
      rw [take_cons] at htake ⊢
      have hturn : ∀ e, turn fs here step ≠ .refused e := by
        intro e heq
        simp [heq] at htake
      rw [h.turn_eq hturn]
      cases heq : turn fs here step with
      | refused e => exact absurd heq (hturn e)
      | onward l => exact ih (by simpa [heq] using htake)
      | link l more => exact honLink l _ (by simpa [heq] using htake)

theorem walkSteps_eq_ok (h : fs.Enlarged fs') {links : Nat} {steps : List Text}
    (hwalk : walkSteps fs links here steps = .ok x) : walkSteps fs' links here steps = .ok x := by
  induction links generalizing here steps with
  | zero => exact h.take_eq_ok (fun _ _ hlink => hlink) hwalk
  | succ links ih => exact h.take_eq_ok (fun _ _ hlink => ih hlink) hwalk

/-- A path that leads to something leads to its counterpart. -/
theorem exists_stat (h : fs.Enlarged fs') {path : Text} {e : Entry}
    (hstat : fs.stat here path = .ok (x, e)) :
    ∃ e', fs'.stat here path = .ok (x, e') ∧
      ∀ entries, e = .folder entries → ∃ entries', e' = .folder entries' := by
  rw [stat, locate] at hstat
  have hfits : ¬(!Path.fits path) = true := fun hlong => by simp [hlong] at hstat
  rw [if_neg hfits] at hstat
  cases hwalk : walkSteps fs linkLimit (start here path) (Path.parts path) with
  | error failure => simp [hwalk] at hstat
  | ok y =>
      simp only [hwalk] at hstat
      cases hat : fs.entryAt? y with
      | none => simp [hat] at hstat
      | some c =>
          simp only [hat, Except.ok.injEq, Prod.mk.injEq] at hstat
          obtain ⟨rfl, rfl⟩ := hstat
          rw [stat, if_neg hfits, locate, h.walkSteps_eq_ok hwalk]
          cases c with
          | file content =>
              obtain ⟨content', hat'⟩ := h.exists_file hat
              exact ⟨.file content', by simp [hat'], by simp⟩
          | folder entries =>
              obtain ⟨entries', hat'⟩ := h.exists_folder hat
              exact ⟨.folder entries', by simp [hat'], fun _ _ => ⟨entries', rfl⟩⟩
          | link target => exact ⟨.link target, by simp [h.link y target hat], by simp⟩

/-- Whatever paths lead to in a file system, they lead to in the enlarged one. -/
theorem stillFound (h : fs.Enlarged fs') (root : Location) : StillFound fs root fs' root := by
  constructor
  · intro l _ hpresent
    rw [FileSystem.present] at hpresent ⊢
    cases hstat : fs.stat root (Path.ofNames l) with
    | error e => simp [hstat, Except.isOk, Except.toBool] at hpresent
    | ok found =>
        obtain ⟨e', hstat', -⟩ := h.exists_stat hstat
        rw [hstat']
        rfl
  · intro l _ hfolder
    rw [isFolder] at hfolder ⊢
    cases hstat : fs.stat root (Path.ofNames l) with
    | error e => simp [hstat] at hfolder
    | ok found =>
        obtain ⟨e', hstat', hkind⟩ := h.exists_stat hstat
        obtain ⟨y, e⟩ := found
        cases e with
        | file | link => simp [hstat] at hfolder
        | folder entries =>
            obtain ⟨entries', rfl⟩ := hkind entries rfl
            rw [hstat']

/-- Entries may be added to the top folder. -/
theorem of_top_append (top more : Table Entry) : Enlarged ⟨top⟩ ⟨top ++ more⟩ := by
  have hkept : ∀ n l e, (⟨top⟩ : FileSystem).entryAt? (n :: l) = some e →
      (⟨top ++ more⟩ : FileSystem).entryAt? (n :: l) = some e := by
    intro n l e hat
    obtain ⟨c, hget, hbelow⟩ := Option.bind_eq_some_iff.1 hat
    have hget' : Table.get? (top ++ more) n = some c := by
      rw [Table.get?, List.lookup_append]
      exact Option.or_eq_some_iff.2 (.inl hget)
    exact Option.bind_eq_some_iff.2 ⟨c, hget', hbelow⟩
  constructor
  · constructor
    · intro l content hat
      cases l with
      | nil => simp [entryAt?] at hat
      | cons n l => exact ⟨content, hkept n l _ hat⟩
    · intro l entries hat
      cases l with
      | nil => exact ⟨top ++ more, rfl⟩
      | cons n l => exact ⟨entries, hkept n l _ hat⟩
  · intro l target hat
    cases l with
    | nil => simp [entryAt?] at hat
    | cons n l => exact hkept n l _ hat

end Enlarged
end FileSystem
end CodeSurvey
