import CodeSurvey.Proofs.FileSystem.Sound

/-!
# Growing folders

A folder has grown into another if everything that stands below the first stands below the second
in the same place, a file for a file and a folder for a folder. Where no links are met, whatever is
found by its names in the first is then found in the second.

## Main definitions

* `FileSystem.LinkFree fs root`: there is no link at or below `root`.
* `FileSystem.Grown fs root fs' root'`: what stands below `root` stands below `root'` too.
-/

namespace CodeSurvey
namespace FileSystem

/-- Whether there is no link at or below a location. -/
def LinkFree (fs : FileSystem) (root : Location) : Prop :=
  ∀ l target, fs.entryAt? (root ++ l) ≠ some (.link target)

/-- Whether every file and every folder at or below one location has a counterpart at or below
another; what the files hold may differ. -/
structure Grown (fs : FileSystem) (root : Location) (fs' : FileSystem) (root' : Location) :
    Prop where
  file : ∀ l content, fs.entryAt? (root ++ l) = some (.file content) →
    ∃ content', fs'.entryAt? (root' ++ l) = some (.file content')
  folder : ∀ l entries, fs.entryAt? (root ++ l) = some (.folder entries) →
    ∃ entries', fs'.entryAt? (root' ++ l) = some (.folder entries')

variable {fs fs' : FileSystem} {root root' here l : Location}

theorem LinkFree.append (h : LinkFree fs root) (l : Location) : LinkFree fs (root ++ l) := by
  intro l' target
  rw [List.append_assoc]
  exact h (l ++ l') target

/-- Steps that meet no link lead where their names lead. -/
theorem LinkFree.eq_of_take {onLink : Location → List Text → Except OsError Location}
    (h : LinkFree fs here) (hproper : ∀ n ∈ l, ProperName n) {x : Location}
    (htake : take fs onLink here l = .ok x) : l.all isShort = true ∧ x = here ++ l := by
  induction l generalizing here with
  | nil =>
      rw [take] at htake
      exact ⟨rfl, by simpa using (Except.ok.inj htake).symm⟩
  | cons n l ih =>
      have hn := hproper n List.mem_cons_self
      rw [take] at htake
      split at htake
      · rename_i entries hhere
        simp only [List.isEmpty_iff, beq_iff_eq, Bool.or_eq_true, hn.ne_nil, hn.ne_point,
          hn.ne_points, or_self, if_false] at htake
        split at htake
        · contradiction
        · rename_i hshort
          split at htake
          · contradiction
          · rename_i target hget
            refine absurd ?_ (h [n] target)
            rw [entryAt?_append_cons hhere, hget]
            simp
          · obtain ⟨hall, hx⟩ := ih (h.append [n])
              (fun m hm => hproper m (List.mem_cons_of_mem _ hm))
              htake
            refine ⟨?_, by simpa using hx⟩
            simp only [List.all_cons, hall, Bool.and_true]
            simpa [isShort] using hshort
      · contradiction
      · contradiction

/-- Where no links are met, a path leads to what stands under its names. -/
theorem LinkFree.stat_eq_ok_iff (h : LinkFree fs root) (hproper : ∀ n ∈ l, ProperName n)
    {x : Location} {leaf : Entry} :
    fs.stat root (Path.ofNames l) = .ok (x, leaf) ↔
      areShort l = true ∧ x = root ++ l ∧ fs.entryAt? (root ++ l) = some leaf := by
  constructor
  · intro hstat
    rw [stat, start, Path.anchor_ofNames hproper, Path.parts_ofNames hproper] at hstat
    split at hstat
    · contradiction
    · rename_i hfits
      rw [Bool.not_eq_true, Bool.not_eq_false'] at hfits
      split at hstat
      · contradiction
      · rename_i y htake
        obtain ⟨hshort, rfl⟩ := h.eq_of_take hproper htake
        split at hstat
        · rename_i e hentry
          simp only [Except.ok.injEq, Prod.mk.injEq] at hstat hentry
          exact ⟨by simp [areShort, hshort, hfits], hstat.1.symm, hstat.2 ▸ hentry⟩
        · contradiction
  · rintro ⟨hshort, rfl, hentry⟩
    have hlink : ∀ target, leaf ≠ .link target := by
      rintro target rfl
      exact h l target hentry
    rw [stat_ofNames hentry hlink hproper, if_pos hshort]

/-- What is present by its names stays present as the folder grows. -/
theorem Grown.present (hgrown : Grown fs root fs' root') (h : LinkFree fs root)
    (hproper : ∀ n ∈ l, ProperName n) (hpresent : fs.present root (Path.ofNames l) = true) :
    fs'.present root' (Path.ofNames l) = true := by
  rw [FileSystem.present] at hpresent
  cases hstat : fs.stat root (Path.ofNames l) with
  | error e => simp [hstat, Except.isOk, Except.toBool] at hpresent
  | ok found =>
      obtain ⟨hshort, -, hentry⟩ := (h.stat_eq_ok_iff hproper).1 hstat
      obtain ⟨leaf', hentry', hlink⟩ : ∃ leaf', fs'.entryAt? (root' ++ l) = some leaf' ∧
          ∀ target, leaf' ≠ .link target := by
        cases hleaf : found.2 with
        | file content =>
            obtain ⟨content', hfile⟩ := hgrown.file l content (hleaf ▸ hentry)
            exact ⟨_, hfile, by simp⟩
        | folder entries =>
            obtain ⟨entries', hfolder⟩ := hgrown.folder l entries (hleaf ▸ hentry)
            exact ⟨_, hfolder, by simp⟩
        | link target => exact absurd (hleaf ▸ hentry) (h l target)
      rw [FileSystem.present, stat_ofNames hentry' hlink hproper, if_pos hshort]
      rfl

end FileSystem
end CodeSurvey
