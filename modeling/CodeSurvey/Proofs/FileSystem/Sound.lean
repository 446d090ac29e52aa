import CodeSurvey.FileSystem.Read
import CodeSurvey.Proofs.Text.Pieces

/-!
# Sound file systems

In a file system that can exist every folder gives each name once, and every name can stand between
slashes. Then names and the path that they spell determine each other, and a path over folders alone
leads where its names lead.

## Main definitions

* `ProperName n`: the text can name an entry.
* `Entry.Sound`, `FileSystem.Sound`: names are proper, and distinct in each folder.
* `Path.ofNames names`: the path that names spell below a folder.
-/

namespace CodeSurvey

/-! ## Tables with distinct names -/

namespace Table

variable {β : Type} {t : Table β} {name : Text} {value : β}

theorem mem_of_get? (h : get? t name = some value) : (name, value) ∈ t := by
  obtain ⟨before, after, rfl, -⟩ := List.lookup_eq_some_iff.1 h
  simp

/-- Where names are distinct, looking a name up finds every member. -/
theorem get?_eq_some_iff_mem (h : (names t).Nodup) :
    get? t name = some value ↔ (name, value) ∈ t := by
  constructor
  · exact mem_of_get?
  · intro hmem
    induction t with
    | nil => simp at hmem
    | cons p t ih =>
        obtain ⟨n, v⟩ := p
        obtain ⟨hn, ht⟩ := List.nodup_cons.1 h
        rw [get?_cons]
        rcases List.mem_cons.1 hmem with heq | hmem
        · obtain ⟨rfl, rfl⟩ := Prod.mk.inj heq
          simp
        · have hname : name ∈ t.map (·.1) := List.mem_map_of_mem hmem
          have hne : name ≠ n := fun heq => hn (heq ▸ hname)
          rw [if_neg (by simpa using hne)]
          exact ih ht hmem

end Table

/-! ## Names and entries -/

/-- Whether a text can name an entry: it says something, has no slash, and is not one of the names
that mean a folder itself and the folder above it. -/
structure ProperName (n : Text) : Prop where
  ne_nil : n ≠ []
  noSlash : '/' ∉ n
  ne_point : n ≠ ['.']
  ne_points : n ≠ ['.', '.']

theorem properName_iff {n : Text} :
    ProperName n ↔ n ≠ [] ∧ '/' ∉ n ∧ n ≠ ['.'] ∧ n ≠ ['.', '.'] :=
  ⟨fun h => ⟨h.1, h.2, h.3, h.4⟩, fun h => ⟨h.1, h.2.1, h.2.2.1, h.2.2.2⟩⟩

instance (n : Text) : Decidable (ProperName n) := decidable_of_iff' _ properName_iff

theorem properNames_concat {d : Location} {n : Text} (hd : ∀ m ∈ d, ProperName m)
    (hn : ProperName n) : ∀ m ∈ d ++ [n], ProperName m := by
  intro m hm
  rcases List.mem_append.1 hm with hm | hm
  · exact hd m hm
  · exact List.mem_singleton.1 hm ▸ hn

/-- Whether the names at or below an entry are proper, and distinct in each folder. -/
inductive Entry.Sound : Entry → Prop
  | file (content : ByteArray) : Sound (.file content)
  | link (target : Text) : Sound (.link target)
  | folder {entries : List (Text × Entry)} (distinct : (Table.names entries).Nodup)
      (proper : ∀ p ∈ entries, ProperName p.1) (below : ∀ p ∈ entries, Sound p.2) :
      Sound (.folder entries)

/-- Whether all names of a file system are proper, and distinct in each folder. -/
def FileSystem.Sound (fs : FileSystem) : Prop := (Entry.folder fs.top).Sound

namespace Entry

variable {e leaf : Entry} {l : Location}

@[simp] theorem sound_file (content : ByteArray) : (Entry.file content).Sound := .file content

@[simp] theorem sound_link (target : Text) : (Entry.link target).Sound := .link target

@[simp] theorem sound_folder {entries : List (Text × Entry)} :
    (Entry.folder entries).Sound ↔
      (Table.names entries).Nodup ∧ ∀ p ∈ entries, ProperName p.1 ∧ p.2.Sound := by
  constructor
  · rintro ⟨⟩
    rename_i distinct proper below
    exact ⟨distinct, fun p hp => ⟨proper p hp, below p hp⟩⟩
  · rintro ⟨distinct, h⟩
    exact .folder distinct (fun p hp => (h p hp).1) fun p hp => (h p hp).2

/-- What stands below a sound entry is sound, and proper names lead there. -/
theorem Sound.at? (h : e.Sound) (hl : e.at? l = some leaf) :
    leaf.Sound ∧ ∀ n ∈ l, ProperName n := by
  induction l generalizing e with
  | nil =>
      obtain rfl : e = leaf := by simpa using hl
      exact ⟨h, by simp⟩
  | cons n l ih =>
      cases h with
      | file | link => simp [Entry.at?] at hl
      | folder distinct proper below =>
          obtain ⟨e', hget, hl⟩ := Option.bind_eq_some_iff.1 hl
          have hmem := Table.mem_of_get? hget
          obtain ⟨hleaf, hnames⟩ := ih (below _ hmem) hl
          refine ⟨hleaf, ?_⟩
          intro x hx
          rcases List.mem_cons.1 hx with rfl | hx
          · exact proper _ hmem
          · exact hnames x hx

/-- Nothing stands below a file or a link. -/
theorem exists_folder_of_at?_cons {n : Text} (h : e.at? (n :: l) = some leaf) :
    ∃ entries, e = .folder entries := by
  cases e with
  | file | link => simp [Entry.at?] at h
  | folder entries => exact ⟨entries, rfl⟩

end Entry

theorem FileSystem.Sound.entryAt? {fs : FileSystem} (h : fs.Sound) {l : Location} {leaf : Entry}
    (hl : fs.entryAt? l = some leaf) : leaf.Sound ∧ ∀ n ∈ l, ProperName n := Entry.Sound.at? h hl

/-- What stands on the way to an entry is a folder. -/
theorem FileSystem.exists_folder_of_prefix {fs : FileSystem} {root k l : Location} {leaf : Entry}
    (h : fs.entryAt? (root ++ l) = some leaf) (hk : k <+: l) (hne : k ≠ l) :
    ∃ entries, fs.entryAt? (root ++ k) = some (.folder entries) := by
  obtain ⟨rest, rfl⟩ := hk
  obtain ⟨n, rest, rfl⟩ := List.exists_cons_of_ne_nil (l := rest) (by rintro rfl; simp at hne)
  rw [FileSystem.entryAt?, ← List.append_assoc, Entry.at?_append] at h
  obtain ⟨e, he, h⟩ := Option.bind_eq_some_iff.1 h
  obtain ⟨entries, rfl⟩ := Entry.exists_folder_of_at?_cons h
  exact ⟨entries, he⟩

/-! ## Paths -/

namespace Path

/-- The path that names spell below a folder. -/
def ofNames (names : Location) : Text := Text.joinWith ['/'] names

variable {names : Location}

@[simp] theorem ofNames_nil : ofNames [] = [] := rfl

/-- Proper names can be read off the path that they spell. -/
theorem splitOn_ofNames (h : ∀ n ∈ names, ProperName n) (hne : names ≠ []) :
    Text.splitOn '/' (ofNames names) = names :=
  Text.splitOn_joinWith (fun n hn => (h n hn).noSlash) hne

theorem ofNames_eq_nil_iff (h : ∀ n ∈ names, ProperName n) : ofNames names = [] ↔ names = [] := by
  constructor
  · intro hnil
    by_cases hne : names = []
    · exact hne
    · have hsplit := splitOn_ofNames h hne
      rw [hnil] at hsplit
      have hmem : ([] : Text) ∈ names := by
        rw [← hsplit]
        exact List.mem_singleton_self _
      exact absurd rfl (h _ hmem).ne_nil
  · rintro rfl
    rfl

theorem ofNames_inj {names' : Location} (h : ∀ n ∈ names, ProperName n)
    (h' : ∀ n ∈ names', ProperName n) : ofNames names = ofNames names' ↔ names = names' := by
  constructor
  · intro heq
    by_cases hne : names = []
    · subst hne
      exact ((ofNames_eq_nil_iff h').1 heq.symm).symm
    · have hne' : names' ≠ [] := by
        rintro rfl
        exact hne ((ofNames_eq_nil_iff h).1 heq)
      rw [← splitOn_ofNames h hne, heq, splitOn_ofNames h' hne']
  · rintro rfl
    rfl

/-- The path of an entry of the folder that the names lead to. -/
theorem child_ofNames (h : ∀ n ∈ names, ProperName n) (n : Text) :
    child (ofNames names) n = ofNames (names ++ [n]) := by
  by_cases hne : names = []
  · subst hne
    simp [child, ofNames, Text.joinWith]
  · have hpath : ofNames names ≠ [] := fun hnil => hne ((ofNames_eq_nil_iff h).1 hnil)
    rw [child, if_neg (by simpa using hpath), ofNames, ofNames,
      Text.joinWith_append _ hne (by simp)]
    simp [Text.joinWith]

theorem parts_ofNames (h : ∀ n ∈ names, ProperName n) : parts (ofNames names) = names := by
  by_cases hne : names = []
  · subst hne
    rfl
  · rw [parts, splitOn_ofNames h hne, List.filter_eq_self]
    intro n hn
    simp [(h n hn).ne_nil, (h n hn).ne_point]

/-- Names spell a path that is not absolute. -/
theorem anchor_ofNames (h : ∀ n ∈ names, ProperName n) : anchor (ofNames names) = [] := by
  cases names with
  | nil => rfl
  | cons n names =>
      have hn := h n List.mem_cons_self
      obtain ⟨c, rest, rfl⟩ := List.exists_cons_of_ne_nil hn.ne_nil
      have hc : c ≠ '/' := fun heq => hn.noSlash (heq ▸ List.mem_cons_self)
      rw [ofNames, Text.joinWith, List.intercalate_cons_cons_left]
      unfold anchor
      split <;> simp_all

end Path

/-! ## Looking up -/

namespace FileSystem

variable {fs : FileSystem}

/-- Whether the system takes a name: longer names lead nowhere, even to an entry that has one. -/
def isShort (n : Text) : Bool := (String.ofList n).utf8ByteSize ≤ 255

/-- Whether the system takes some names and the path that they make. -/
def areShort (l : Location) : Bool := Path.fits (Path.ofNames l) && l.all isShort

/-- What stands below an entry of a folder. -/
theorem entryAt?_append_cons {here : Location} {entries : List (Text × Entry)}
    (h : fs.entryAt? here = some (.folder entries)) (n : Text) (l : Location) :
    fs.entryAt? (here ++ n :: l) = (Table.get? entries n).bind (·.at? l) := by
  rw [entryAt?, Entry.at?_append, ← entryAt?, h]
  rfl

/-- Steps over folders alone lead where the names lead, as long as the system takes the names. -/
theorem take_of_entryAt? {onLink : Location → List Text → Except OsError Location}
    {here l : Location} {leaf : Entry} (h : fs.entryAt? (here ++ l) = some leaf)
    (hlink : ∀ target, leaf ≠ .link target)
    (hproper : ∀ n ∈ l, ProperName n) :
    take fs onLink here l = if l.all isShort then .ok (here ++ l) else .error .nameTooLong := by
  induction l generalizing here with
  | nil => simp [take]
  | cons n l ih =>
      have hn := hproper n List.mem_cons_self
      obtain ⟨entries, hhere⟩ : ∃ entries, fs.entryAt? here = some (.folder entries) := by
        simpa using exists_folder_of_prefix h List.nil_prefix (by simp)
      have ih := @ih (here ++ [n]) (by simpa using h)
        fun x hx => hproper x (List.mem_cons_of_mem _ hx)
      rw [List.append_assoc, List.singleton_append] at ih
      rw [entryAt?_append_cons hhere] at h
      obtain ⟨e, hget, hbelow⟩ := Option.bind_eq_some_iff.1 h
      rw [take, hhere]
      simp only [List.isEmpty_iff, beq_iff_eq, Bool.or_eq_true, hn.ne_nil, hn.ne_point,
        hn.ne_points, or_self, if_false, hget, List.all_cons, Bool.and_eq_true]
      by_cases hshort : isShort n = true
      · have hle : ¬255 < (String.ofList n).utf8ByteSize := by simpa [isShort] using hshort
        simp only [hle, hshort, true_and, if_false, ← ih]
        cases e with
        | file | folder => rfl
        | link target =>
            -- Nothing stands below a link, so it would be the last step, which is none.
            cases l with
            | nil => exact absurd (by simpa using hbelow.symm) (hlink target)
            | cons m l => simp [Entry.at?] at hbelow
      · have hlt : 255 < (String.ofList n).utf8ByteSize := by simpa [isShort] using hshort
        rw [if_pos hlt, if_neg (by simp [hshort])]

/-- A path over folders alone leads where its names lead, as long as the system takes them. -/
theorem stat_ofNames {root l : Location} {leaf : Entry} (h : fs.entryAt? (root ++ l) = some leaf)
    (hlink : ∀ target, leaf ≠ .link target) (hproper : ∀ n ∈ l, ProperName n) :
    fs.stat root (Path.ofNames l) =
      if areShort l then .ok (root ++ l, leaf) else .error .nameTooLong := by
  have hlocate : fs.locate (start root (Path.ofNames l)) (Path.parts (Path.ofNames l)) =
      if l.all isShort then .ok (root ++ l) else .error .nameTooLong := by
    rw [start, Path.anchor_ofNames hproper, Path.parts_ofNames hproper]
    exact take_of_entryAt? h hlink hproper
  rw [stat, hlocate, areShort]
  cases Path.fits (Path.ofNames l) with
  | false => rfl
  | true =>
      by_cases hshort : l.all isShort = true
      · simp only [hshort, Bool.not_true, Bool.false_eq_true, if_false, Bool.and_self, if_true, h]
      · simp only [hshort, Bool.not_true, Bool.and_false, Bool.false_eq_true, if_false]

/-- The text of a file that names lead to over folders alone depends on its content, the limit and
the names. -/
theorem toOption_readSource_ofNames {root l : Location} {content : ByteArray} (limit : Option Int)
    (h : fs.entryAt? (root ++ l) = some (.file content)) (hproper : ∀ n ∈ l, ProperName n) :
    (fs.readSource root limit (Path.ofNames l)).toOption =
      if areShort l = true ∧
          ¬limit.any (fun n => n < (entrySize (.file content) : Int)) = true then
        (sourceOf content).toOption
      else none := by
  rw [readSource, stat_ofNames h (by simp) hproper]
  by_cases hshort : areShort l = true
  · simp only [hshort, if_true, true_and]
    by_cases hlarge : limit.any (fun n => n < (entrySize (.file content) : Int)) = true
    · rw [if_pos hlarge, if_neg (not_not_intro hlarge)]
      rfl
    · rw [if_neg hlarge, if_pos hlarge]
  · simp [hshort, Except.toOption]

end FileSystem
end CodeSurvey
