import CodeSurvey.FileSystem.Resolve
import CodeSurvey.Proofs.FileSystem.Sound

/-!
# The order of listing

A folder gives its entries in some order, which means nothing. Two file systems that differ in these
orders alone, at any depth, hold the same at every location, and a path leads to the same place in
both of them, over links as well.

## Main definitions

* `Entry.Reordered e e'`, `FileSystem.Reordered fs fs'`: the orders alone may differ.
* `Entry.face e`: what an entry is by itself, without what stands below it.
-/

namespace CodeSurvey

/-- Whether two entries differ at most in the orders in which folders give their entries. -/
inductive Entry.Reordered : Entry → Entry → Prop
  | file (content : ByteArray) : Reordered (.file content) (.file content)
  | link (target : Text) : Reordered (.link target) (.link target)
  | folder {entries entries' : List (Text × Entry)}
      (names : (Table.names entries).Perm (Table.names entries'))
      (below : ∀ n e e', (n, e) ∈ entries → (n, e') ∈ entries' → Reordered e e') :
      Reordered (.folder entries) (.folder entries')

/-- Whether two file systems differ at most in the orders in which folders give their entries. -/
def FileSystem.Reordered (fs fs' : FileSystem) : Prop :=
  (Entry.folder fs.top).Reordered (.folder fs'.top)

/-- What an entry is by itself, without what stands below it. -/
def Entry.face : Entry → Entry
  | .folder _ => .folder []
  | e => e

/-! ## Entries -/

theorem Table.mem_names_iff_exists {β : Type} {t : Table β} {n : Text} :
    n ∈ names t ↔ ∃ v, (n, v) ∈ t := by
  simp [names]

namespace Entry

/-- Either nothing stands at two places, or the same does. -/
theorem none_or_face_eq {o o' : Option Entry} (h : o.map face = o'.map face) :
    (o = none ∧ o' = none) ∨ ∃ e e', o = some e ∧ o' = some e' ∧ e.face = e'.face := by
  cases o with
  | none => cases o' with
    | none => exact .inl ⟨rfl, rfl⟩
    | some e' => simp at h
  | some e => cases o' with
    | none => simp at h
    | some e' => exact .inr ⟨e, e', rfl, rfl, by simpa using h⟩

variable {e e' : Entry} {entries entries' : List (Text × Entry)}

theorem face_eq_file {content : ByteArray} : e.face = .file content ↔ e = .file content := by
  cases e <;> simp [face]

theorem face_eq_link {target : Text} : e.face = .link target ↔ e = .link target := by
  cases e <;> simp [face]

theorem face_eq_folder : e.face = .folder [] ↔ ∃ entries, e = .folder entries := by
  cases e <;> simp [face]

theorem Sound.reordered_self (h : e.Sound) : e.Reordered e := by
  induction h with
  | file content => exact .file content
  | link target => exact .link target
  | @folder entries distinct proper below ih =>
      refine .folder .rfl fun n e e' he he' => ?_
      rw [← Table.get?_eq_some_iff_mem distinct] at he he'
      obtain rfl : e = e' := Option.some.inj (he.symm.trans he')
      exact ih _ (Table.mem_of_get? he)

/-- The entries of a folder may come in any order. -/
theorem Sound.reordered_of_perm (h : (Entry.folder entries).Sound) (hperm : entries.Perm entries') :
    (Entry.folder entries).Reordered (.folder entries') := by
  cases h.reordered_self with
  | folder names below =>
      exact .folder (hperm.map _) fun n e e' he he' => below n e e' he (hperm.mem_iff.2 he')

namespace Reordered

theorem sound (h : e.Reordered e') (he : e.Sound) : e'.Sound := by
  induction h with
  | file | link => exact he
  | @folder entries entries' names below ih =>
      obtain ⟨distinct, hentries⟩ := sound_folder.1 he
      refine sound_folder.2 ⟨names.nodup_iff.1 distinct, fun p hp => ?_⟩
      obtain ⟨e, hmem⟩ : ∃ e, (p.1, e) ∈ entries :=
        Table.mem_names_iff_exists.1 (names.mem_iff.2 (List.mem_map_of_mem hp))
      obtain ⟨hproper, hsound⟩ := hentries _ hmem
      exact ⟨hproper, ih _ _ _ hmem hp hsound⟩

/-- Tables that differ in the order alone have the same names. -/
theorem has_eq_of_perm (names : (Table.names entries).Perm (Table.names entries')) (n : Text) :
    Table.has entries n = Table.has entries' n := by
  rw [Bool.eq_iff_iff, Table.has_iff_mem_names, Table.has_iff_mem_names, names.mem_iff]

/-- The same stands at every place below entries that differ in the orders alone. -/
theorem face_at? (h : e.Reordered e') (l : Location) :
    (e.at? l).map face = (e'.at? l).map face := by
  induction h generalizing l with
  | file | link => rfl
  | @folder entries entries' names below ih =>
      cases l with
      | nil => simp [face]
      | cons n l =>
          have hsome := has_eq_of_perm names n
          rw [Table.has, Table.has] at hsome
          rw [Entry.at?, Entry.at?]
          cases hget : Table.get? entries n with
          | none => cases hget' : Table.get? entries' n with
            | none => rfl
            | some e' => simp [hget, hget'] at hsome
          | some e => cases hget' : Table.get? entries' n with
            | none => simp [hget, hget'] at hsome
            | some e' => exact ih n e e' (Table.mem_of_get? hget) (Table.mem_of_get? hget') l

end Reordered
end Entry

/-! ## Paths -/

namespace FileSystem.Reordered

variable {fs fs' : FileSystem}

theorem sound (h : fs.Reordered fs') (hfs : fs.Sound) : fs'.Sound := Entry.Reordered.sound h hfs

theorem face_entryAt? (h : fs.Reordered fs') (l : Location) :
    (fs.entryAt? l).map Entry.face = (fs'.entryAt? l).map Entry.face := Entry.Reordered.face_at? h l

/-- The same stands in folders at one location. -/
theorem face_get? (h : fs.Reordered fs') {here : Location} {entries entries' : List (Text × Entry)}
    (hat : fs.entryAt? here = some (.folder entries))
    (hat' : fs'.entryAt? here = some (.folder entries')) (n : Text) :
    (Table.get? entries n).map Entry.face = (Table.get? entries' n).map Entry.face := by
  have hbelow := h.face_entryAt? (here ++ [n])
  simpa [entryAt?_append_cons hat, entryAt?_append_cons hat'] using hbelow

/-- Steps lead to the same place if the steps that replace those of a link do so. -/
theorem take_eq (h : fs.Reordered fs') (onLink : Location → List Text → Except OsError Location)
    (here : Location) (steps : List Text) :
    take fs onLink here steps = take fs' onLink here steps := by
  induction steps generalizing here with
  | nil => rw [take, take]
  | cons step steps ih =>
      rw [take, take]
      rcases Entry.none_or_face_eq (h.face_entryAt? here) with
        ⟨hat, hat'⟩ | ⟨e, e', hat, hat', hface⟩
      · rw [hat, hat']
      · rw [hat, hat']
        cases e <;> cases e' <;> simp only [Entry.face, reduceCtorEq] at hface
        case file | link => rfl
        case folder entries entries' =>
          simp only [ih]
          rcases Entry.none_or_face_eq (h.face_get? hat hat' step) with
            ⟨hget, hget'⟩ | ⟨c, c', hget, hget', hface⟩
          · rw [hget, hget']
          · rw [hget, hget']
            cases c <;> cases c' <;> simp_all [Entry.face]

theorem walkSteps_eq (h : fs.Reordered fs') (links : Nat) :
    walkSteps fs links = walkSteps fs' links := by
  induction links with
  | zero =>
      funext here steps
      exact h.take_eq _ here steps
  | succ links ih =>
      funext here steps
      rw [walkSteps, walkSteps, ih]
      exact h.take_eq _ here steps

/-- A path leads to the same in file systems that differ in the orders alone. -/
theorem face_stat (h : fs.Reordered fs') (here : Location) (path : Text) :
    ((fs.stat here path).map (·.2)).map Entry.face =
      ((fs'.stat here path).map (·.2)).map Entry.face := by
  rw [stat, stat, locate, locate, h.walkSteps_eq]
  split
  · rfl
  cases walkSteps fs' linkLimit (start here path) (Path.parts path) with
  | error e => rfl
  | ok l =>
      simp only
      rcases Entry.none_or_face_eq (h.face_entryAt? l) with ⟨hat, hat'⟩ | ⟨e, e', hat, hat', hface⟩
      · rw [hat, hat']
      · rw [hat, hat']
        exact congrArg Except.ok hface

end FileSystem.Reordered
end CodeSurvey
