import CodeSurvey.FileSystem.Edit
import CodeSurvey.Proofs.FileSystem.Reordering
import Mathlib.Data.Set.Basic

/-!
# Writing files

A file that is opened for writing stands in a folder, under a proper name, where nothing or a file
stood before. Writing it changes nothing else: file systems that differ in such files alone agree
elsewhere, and files that are opened in them by the same path get the same place.

## Main definitions

* `FileSystem.IsPlace fs l`: a file can be written at a location.
* `FileSystem.AlikeOff W fs fs'`: the file systems differ at most in the files at some places.
-/

namespace CodeSurvey

/-- Whether a file can be written at a location: in a folder, under a proper name, in the place of
nothing or of a file. -/
inductive FileSystem.IsPlace (fs : FileSystem) : Location → Prop
  | intro {d : Location} {n : Text} {entries : List (Text × Entry)} (proper : ProperName n)
      (folder : fs.entryAt? d = some (.folder entries))
      (free : ∀ e, Table.get? entries n = some e → ∃ content, e = .file content) :
      IsPlace fs (d ++ [n])

/-- Whether two file systems differ at most in the files at some places. -/
structure FileSystem.AlikeOff (W : Set Location) (fs fs' : FileSystem) : Prop where
  face : ∀ l ∉ W, (fs.entryAt? l).map Entry.face = (fs'.entryAt? l).map Entry.face
  place : ∀ l ∈ W, fs.IsPlace l
  place' : ∀ l ∈ W, fs'.IsPlace l

/-! ## Entries -/

namespace Entry

variable {e new : Entry} {d l : Location} {n : Text} {entries : List (Text × Entry)}

theorem put_cons {m : Text} {rest : Location} :
    put new (.folder entries) (m :: rest) = .folder (Table.put entries m
      (put new ((Table.get? entries m).getD (.folder [])) rest)) := rfl

/-- What is put into a folder leaves folders where they are. -/
theorem exists_folder_put (new : Entry) (h : e.at? d = some (.folder entries)) :
    ∃ entries', put new e (d ++ [n]) = .folder entries' := by
  cases d with
  | nil =>
      obtain rfl : e = .folder entries := by simpa using h
      exact ⟨_, rfl⟩
  | cons m d =>
      obtain ⟨entries', rfl⟩ := exists_folder_of_at?_cons h
      exact ⟨_, rfl⟩

/-- Nothing stands below a file. -/
theorem at?_file_cons (content : ByteArray) (m : Text) (l : Location) :
    (Entry.file content).at? (m :: l) = none := rfl

/-- A file that takes the place of nothing or of a file is the only change. -/
theorem face_at?_put (content : ByteArray) (h : e.at? d = some (.folder entries))
    (free : ∀ e, Table.get? entries n = some e → ∃ old, e = .file old) (l : Location) :
    ((put (.file content) e (d ++ [n])).at? l).map face =
      if l = d ++ [n] then some (.file content) else (e.at? l).map face := by
  induction d generalizing e l with
  | nil =>
      obtain rfl : e = .folder entries := by simpa using h
      rw [List.nil_append, put_cons]
      cases l with
      | nil => simp [face]
      | cons m l =>
          rw [at?, at?, Table.get?_put]
          by_cases hm : m = n
          · subst hm
            cases l with
            | nil => simp [put, face]
            | cons k l =>
                -- Below the name there was nothing, and there is nothing now.
                have hold : (Table.get? entries m).bind (·.at? (k :: l)) = none := by
                  cases hget : Table.get? entries m with
                  | none => rfl
                  | some e =>
                      obtain ⟨old, rfl⟩ := free e hget
                      rfl
                rw [hold]
                simp [put, at?_file_cons]
          · simp [hm]
  | cons k d ih =>
      obtain ⟨outer, rfl⟩ := exists_folder_of_at?_cons h
      obtain ⟨inner, hget, hinner⟩ := Option.bind_eq_some_iff.1 h
      rw [List.cons_append, put_cons, hget, Option.getD_some]
      cases l with
      | nil => simp [face]
      | cons m l =>
          rw [at?, at?, Table.get?_put]
          by_cases hm : m = k
          · subst hm
            simpa [hget] using ih hinner l
          · simp [hm]

theorem Sound.put_file (he : e.Sound) (content : ByteArray)
    (h : e.at? d = some (.folder entries)) (hn : ProperName n) :
    (put (.file content) e (d ++ [n])).Sound := by
  have hput : ∀ {t : List (Text × Entry)} {m : Text} {new : Entry}, (Entry.folder t).Sound →
      ProperName m → new.Sound → (Entry.folder (Table.put t m new)).Sound := by
    intro t m new ht hm hnew
    obtain ⟨distinct, hall⟩ := sound_folder.1 ht
    have hdistinct := Table.nodup_names_put distinct m new
    refine sound_folder.2 ⟨hdistinct, fun p hp => ?_⟩
    have hget := (Table.get?_eq_some_iff_mem hdistinct).2 hp
    rw [Table.get?_put] at hget
    split at hget
    · rename_i hname
      obtain rfl := Option.some.inj hget
      exact ⟨(beq_iff_eq.1 hname) ▸ hm, hnew⟩
    · exact hall _ (Table.mem_of_get? hget)
  induction d generalizing e with
  | nil =>
      obtain rfl : e = .folder entries := by simpa using h
      exact hput he hn (by simp [put])
  | cons k d ih =>
      obtain ⟨outer, rfl⟩ := exists_folder_of_at?_cons h
      obtain ⟨inner, hget, hinner⟩ := Option.bind_eq_some_iff.1 h
      obtain ⟨hproper, hsound⟩ := (sound_folder.1 he).2 _ (Table.mem_of_get? hget)
      rw [List.cons_append, put_cons, hget, Option.getD_some]
      exact hput he hproper (ih hsound hinner)

end Entry

/-! ## Places -/

namespace FileSystem

variable {fs fs' fs'' : FileSystem} {W : Set Location} {l x : Location}

/-- The tree of a file system into which a file is put. -/
theorem folder_top_put (h : fs.IsPlace l) (content : ByteArray) :
    Entry.folder (fs.put l (.file content)).top = Entry.put (.file content) (.folder fs.top) l := by
  obtain ⟨-, folder, -⟩ := h
  obtain ⟨entries', hput⟩ := Entry.exists_folder_put (.file content) folder
  rw [put, hput, ofEntry]

/-- What stands in a folder under a name. -/
theorem entryAt?_concat {d : Location} {entries : List (Text × Entry)}
    (h : fs.entryAt? d = some (.folder entries)) (n : Text) :
    fs.entryAt? (d ++ [n]) = Table.get? entries n := by
  rw [entryAt?_append_cons h]
  cases Table.get? entries n <;> simp

/-- Only the file that is put changes. -/
theorem IsPlace.face_entryAt?_put (h : fs.IsPlace l) (content : ByteArray) (x : Location) :
    ((fs.put l (.file content)).entryAt? x).map Entry.face =
      if x = l then some (.file content) else (fs.entryAt? x).map Entry.face := by
  rw [entryAt?, folder_top_put h]
  obtain ⟨-, folder, free⟩ := h
  exact Entry.face_at?_put content folder free x

theorem IsPlace.entryAt?_put_self (h : fs.IsPlace l) (content : ByteArray) :
    (fs.put l (.file content)).entryAt? l = some (.file content) := by
  have hface := h.face_entryAt?_put content l
  rw [if_pos rfl] at hface
  obtain ⟨e, he, hface⟩ := Option.map_eq_some_iff.1 hface
  cases e with
  | file => exact he.trans (congrArg some hface)
  | link | folder => simp [Entry.face] at hface

theorem IsPlace.sound_put (h : fs.IsPlace l) (hfs : fs.Sound) (content : ByteArray) :
    (fs.put l (.file content)).Sound := by
  rw [Sound, folder_top_put h]
  obtain ⟨proper, folder, -⟩ := h
  exact Entry.Sound.put_file hfs content folder proper

/-- What stands at a place is a file. -/
theorem IsPlace.exists_file (h : fs.IsPlace l) {e : Entry} (hat : fs.entryAt? l = some e) :
    ∃ content, e = .file content := by
  obtain ⟨-, folder, free⟩ := h
  rw [entryAt?_concat folder] at hat
  exact free e hat

theorem IsPlace.proper_last {d : Location} {n : Text} (h : fs.IsPlace (d ++ [n])) :
    ProperName n := by
  generalize hl : d ++ [n] = l at h
  obtain ⟨proper, -, -⟩ := h
  obtain ⟨-, hn⟩ := List.append_inj' hl rfl
  obtain rfl := List.singleton_inj.1 hn
  exact proper

theorem IsPlace.folder_ne (h : fs.IsPlace l) {entries : List (Text × Entry)}
    (hx : fs.entryAt? x = some (.folder entries)) : x ≠ l := by
  rintro rfl
  obtain ⟨content, hfile⟩ := h.exists_file hx
  simp at hfile

/-- A place stays one while folders stay and nothing but a file takes it. -/
theorem IsPlace.mono (h : fs.IsPlace l)
    (hfolder : ∀ d entries, fs.entryAt? d = some (.folder entries) →
      ∃ entries', fs'.entryAt? d = some (.folder entries'))
    (hfree : ∀ e, fs'.entryAt? l = some e → ∃ content, e = .file content) : fs'.IsPlace l := by
  obtain ⟨proper, folder, -⟩ := h
  obtain ⟨entries', folder'⟩ := hfolder _ _ folder
  exact .intro proper folder' fun e hget => hfree e ((entryAt?_concat folder' _).trans hget)

/-- A place stays one when a file is put at a place. -/
theorem IsPlace.of_put (h : fs.IsPlace x) (hl : fs.IsPlace l) (content : ByteArray) :
    (fs.put l (.file content)).IsPlace x := by
  apply h.mono
  · intro d entries hd
    have hface := hl.face_entryAt?_put content d
    rw [if_neg (hl.folder_ne hd), hd] at hface
    obtain ⟨e, he, hface⟩ := Option.map_eq_some_iff.1 hface
    obtain ⟨entries', rfl⟩ := Entry.face_eq_folder.1 hface
    exact ⟨entries', he⟩
  · intro e he
    have hface := hl.face_entryAt?_put content x
    rw [he] at hface
    split at hface
    · exact ⟨content, Entry.face_eq_file.1 (Option.some.inj hface)⟩
    · obtain ⟨old, hold, hface⟩ := Option.map_eq_some_iff.1 hface.symm
      obtain ⟨c, rfl⟩ := h.exists_file hold
      exact ⟨c, Entry.face_eq_file.1 hface.symm⟩

/-! ## File systems that differ in some files -/

namespace AlikeOff

theorem refl (h : ∀ l ∈ W, fs.IsPlace l) : AlikeOff W fs fs := ⟨fun _ _ => rfl, h, h⟩

theorem symm (h : AlikeOff W fs fs') : AlikeOff W fs' fs :=
  ⟨fun l hl => (h.face l hl).symm, h.place', h.place⟩

theorem trans (h : AlikeOff W fs fs') (h' : AlikeOff W fs' fs'') : AlikeOff W fs fs'' :=
  ⟨fun l hl => (h.face l hl).trans (h'.face l hl), h.place, h'.place'⟩

/-- A file may be put at any of the places. -/
theorem put (h : AlikeOff W fs fs') (hl : l ∈ W) (content : ByteArray) :
    AlikeOff W fs (fs'.put l (.file content)) where
  face x hx := by
    have hne : x ≠ l := by
      rintro rfl
      exact hx hl
    rw [(h.place' l hl).face_entryAt?_put content x, if_neg hne]
    exact h.face x hx
  place := h.place
  place' x hx := (h.place' x hx).of_put (h.place' l hl) content

/-- Folders stay, and none is among the places. -/
theorem folder (h : AlikeOff W fs fs') {entries : List (Text × Entry)}
    (hx : fs.entryAt? x = some (.folder entries)) :
    x ∉ W ∧ ∃ entries', fs'.entryAt? x = some (.folder entries') := by
  have hW : x ∉ W := fun hmem => (h.place x hmem).folder_ne hx rfl
  have hface := h.face x hW
  rw [hx] at hface
  obtain ⟨e, he, hface⟩ := Option.map_eq_some_iff.1 hface.symm
  obtain ⟨entries', rfl⟩ := Entry.face_eq_folder.1 hface
  exact ⟨hW, entries', he⟩

/-- Links stay. -/
theorem link (h : AlikeOff W fs fs') {target : Text} (hx : fs.entryAt? x = some (.link target)) :
    fs'.entryAt? x = some (.link target) := by
  have hW : x ∉ W := by
    intro hmem
    obtain ⟨content, hfile⟩ := (h.place x hmem).exists_file hx
    simp at hfile
  have hface := h.face x hW
  rw [hx] at hface
  obtain ⟨e, he, hface⟩ := Option.map_eq_some_iff.1 hface.symm
  rw [he, Entry.face_eq_link.1 hface]

/-- Where nothing or a file stands, nothing else comes to stand. -/
theorem free (h : AlikeOff W fs fs')
    (hx : ∀ e, fs.entryAt? x = some e → ∃ content, e = .file content) (e : Entry)
    (he : fs'.entryAt? x = some e) : ∃ content, e = .file content := by
  cases e with
  | file content => exact ⟨content, rfl⟩
  | link target => exact absurd (hx _ (h.symm.link he)) (by simp)
  | folder entries =>
      obtain ⟨entries', he'⟩ := (h.symm.folder he).2
      exact absurd (hx _ he') (by simp)

/-- A place that is not among the changed ones holds what it held. -/
theorem entryAt?_eq_of_place (h : AlikeOff W fs fs') (hplace : fs.IsPlace x) (hx : x ∉ W) :
    fs'.entryAt? x = fs.entryAt? x := by
  rcases Entry.none_or_face_eq (h.face x hx) with ⟨hat, hat'⟩ | ⟨e, e', hat, hat', hface⟩
  · rw [hat, hat']
  · obtain ⟨content, rfl⟩ := hplace.exists_file hat
    rw [hat, hat', Entry.face_eq_file.1 hface.symm]

/-- What is a place in the first of them is one in the second. -/
theorem isPlace (h : AlikeOff W fs fs') (hplace : fs.IsPlace x) : fs'.IsPlace x :=
  hplace.mono (fun _ _ hd => (h.folder hd).2) (h.free fun _ he => hplace.exists_file he)

end AlikeOff
end FileSystem
end CodeSurvey
