import CodeSurvey.Proofs.Tree.Agreement
import CodeSurvey.Survey.Run

/-!
# What a walk sees

A walk sees an entry if nothing on the way to it is ignored and it lies no deeper than allowed. The
tree and the notes on it are the same for two folders that are alike wherever the walk sees them, if
the links that it sees lead to the same.

## Main definitions

* `Entry.cut levels e`: an entry without what lies deeper than some levels.
* `Settings.Sees s l`: the walk of a root sees what the names `l` lead to below it.
-/

namespace CodeSurvey

/-- An entry without what lies deeper than some levels below it. -/
def Entry.cut : (levels : Nat) → Entry → Entry
  | 0, .folder _ => .folder []
  | levels + 1, .folder entries => .folder (entries.map fun p => (p.1, p.2.cut levels))
  | _, e => e

/-- Whether the walk of a root sees what some names lead to below it. -/
structure Settings.Sees (s : Settings) (l : Location) : Prop where
  depth : l.length ≤ s.maxDepth.toNat
  kept : Kept (rulesOf s.ignorePatterns) [] l

/-! ## Cutting -/

theorem Table.get?_mapValues {β γ : Type} (t : Table β) (f : β → γ) (n : Text) :
    Table.get? (t.map fun p => (p.1, f p.2)) n = (Table.get? t n).map f := by
  induction t with
  | nil => rfl
  | cons p t ih =>
      obtain ⟨m, v⟩ := p
      rw [List.map_cons, Table.get?_cons, Table.get?_cons, ih]
      split <;> rfl

namespace Entry

variable {e : Entry} {levels : Nat} {l : Location} {entries : List (Text × Entry)}

@[simp] theorem cut_file (levels : Nat) (content : ByteArray) :
    (Entry.file content).cut levels = .file content := by cases levels <;> rfl

@[simp] theorem cut_link (levels : Nat) (target : Text) :
    (Entry.link target).cut levels = .link target := by cases levels <;> rfl

@[simp] theorem cut_zero : (Entry.folder entries).cut 0 = .folder [] := rfl

@[simp] theorem cut_succ : (Entry.folder entries).cut (levels + 1) =
    .folder (entries.map fun p => (p.1, p.2.cut levels)) := rfl

@[simp] theorem face_cut (levels : Nat) (e : Entry) : (e.cut levels).face = e.face := by
  cases e with
  | file | link => simp
  | folder entries => cases levels <;> rfl

/-- Down to the last level everything stands as before, and nothing below. -/
theorem face_at?_cut (e : Entry) (levels : Nat) (l : Location) :
    ((e.cut levels).at? l).map face = if l.length ≤ levels then (e.at? l).map face else none := by
  induction l generalizing e levels with
  | nil => simp
  | cons n l ih =>
      cases e with
      | file | link => simp [at?]
      | folder entries =>
          cases levels with
          | zero => simp [at?]
          | succ levels =>
              rw [cut_succ, at?, at?, Table.get?_mapValues]
              cases Table.get? entries n with
              | none => simp
              | some c => simpa using ih c levels

theorem Sound.cut (h : e.Sound) (levels : Nat) : (e.cut levels).Sound := by
  induction levels generalizing e with
  | zero =>
      cases h with
      | file | link => simp
      | folder => simp [Table.names]
  | succ levels ih =>
      cases h with
      | file | link => simp
      | folder distinct proper below =>
          refine .folder ?_ ?_ ?_
          · simpa [Table.names, Function.comp_def] using distinct
          · intro p hp
            obtain ⟨c, hc, rfl⟩ := List.mem_map.1 hp
            exact proper c hc
          · intro p hp
            obtain ⟨c, hc, rfl⟩ := List.mem_map.1 hp
            exact ih (below c hc)

end Entry

namespace Walk

variable {w w' : Walk} {levels : Nat} {name path : Text} {d : Location} {e e' : Entry}

/-- The node of an entry does not tell what lies too deep. -/
theorem node?_cut (w : Walk) (levels : Nat) (name path : Text) (e : Entry) :
    node? w levels name path (e.cut levels) = node? w levels name path e := by
  induction levels generalizing name path e with
  | zero => cases e <;> simp [node?]
  | succ levels ih =>
      cases e with
      | file | link => simp
      | folder entries =>
          rw [Entry.cut_succ, node?, node?, nodes_eq_flatMap, nodes_eq_flatMap, List.flatMap_map]
          simp only [ih]

theorem blockedIn_eq_flatMap (w : Walk) (levels : Nat) (folder : Text)
    (entries : List (Text × Entry)) :
    blockedIn w levels folder entries = entries.flatMap fun p =>
      if ignored w.rules (Path.child folder p.1) then []
      else [(p.1, blocked w levels (Path.child folder p.1) p.2)] := by
  induction entries with
  | nil => rw [blockedIn, List.flatMap_nil]
  | cons p entries ih =>
      rw [blockedIn, ih, List.flatMap_cons]
      split <;> simp

theorem blocked_cut (w : Walk) (levels : Nat) (path : Text) (e : Entry) :
    blocked w levels path (e.cut levels) = blocked w levels path e := by
  induction levels generalizing path e with
  | zero => cases e <;> simp [blocked]
  | succ levels ih =>
      cases e with
      | file | link => simp
      | folder entries =>
          rw [Entry.cut_succ, blocked, blocked, blockedIn_eq_flatMap, blockedIn_eq_flatMap,
            List.flatMap_map]
          simp only [ih]

/-! ## Links that cannot be followed -/

theorem blocked_link_eq {path target : Text}
    (h : (w.look path).map Entry.face = (w'.look path).map Entry.face) :
    blocked w levels path (.link target) = blocked w' levels path (.link target) := by
  rw [blocked, blocked]
  cases hlook : w.look path with
  | error => cases hlook' : w'.look path with
    | error => simp_all [Except.map]
    | ok => simp [hlook, hlook', Except.map] at h
  | ok => cases hlook' : w'.look path with
    | error => simp [hlook, hlook', Except.map] at h
    | ok => rfl

theorem names_blockedIn_sublist (w : Walk) (levels : Nat) (folder : Text)
    (entries : List (Text × Entry)) :
    ((blockedIn w levels folder entries).map (·.1)).Sublist (Table.names entries) := by
  induction entries with
  | nil => simp [blockedIn]
  | cons c entries ih =>
      rw [blockedIn, Table.names, List.map_cons]
      split
      · exact ih.cons _
      · exact ih.cons_cons _

theorem mem_blockedIn {entries : List (Text × Entry)} (distinct : (Table.names entries).Nodup)
    (hd : ∀ n ∈ d, ProperName n) {b : Text × List (Text × OsError)} :
    b ∈ blockedIn w levels (Path.ofNames d) entries ↔
      ∃ n e, Table.get? entries n = some e ∧ ignored w.rules (Path.ofNames (d ++ [n])) = false ∧
        b = (n, blocked w levels (Path.ofNames (d ++ [n])) e) := by
  have hitem : ∀ c : Text × Entry,
      (b ∈ if ignored w.rules (Path.child (Path.ofNames d) c.1) then []
        else [(c.1, blocked w levels (Path.child (Path.ofNames d) c.1) c.2)]) ↔
      ignored w.rules (Path.ofNames (d ++ [c.1])) = false ∧
        b = (c.1, blocked w levels (Path.ofNames (d ++ [c.1])) c.2) := by
    intro c
    rw [Path.child_ofNames hd]
    split <;> simp_all
  simp only [blockedIn_eq_flatMap, List.mem_flatMap, hitem, Prod.exists,
    Table.get?_eq_some_iff_mem distinct]

/-- The blocked links of two folders are the same if those of agreeing entries are. -/
theorem blockedIn_perm_of_agree {entries entries' : List (Text × Entry)}
    (hrules : w'.rules = w.rules) (hd : ∀ n ∈ d, ProperName n)
    (distinct : (Table.names entries).Nodup) (distinct' : (Table.names entries').Nodup)
    (h : Agree w.rules d (.folder entries) (.folder entries'))
    (hchild : ∀ n e e', Table.get? entries n = some e → Table.get? entries' n = some e' →
      ignored w.rules (Path.ofNames (d ++ [n])) = false → Agree w.rules (d ++ [n]) e e' →
      blocked w levels (Path.ofNames (d ++ [n])) e =
        blocked w' levels (Path.ofNames (d ++ [n])) e') :
    (blockedIn w levels (Path.ofNames d) entries).Perm
      (blockedIn w' levels (Path.ofNames d) entries') := by
  have hnodup : ∀ (w : Walk) {entries : List (Text × Entry)}, (Table.names entries).Nodup →
      (blockedIn w levels (Path.ofNames d) entries).Nodup := fun w entries hdistinct =>
    (hdistinct.sublist (names_blockedIn_sublist w levels _ entries)).of_map _
  refine (List.perm_ext_iff_of_nodup (hnodup w distinct) (hnodup w' distinct')).2 fun b => ?_
  rw [mem_blockedIn distinct hd, mem_blockedIn distinct' hd, hrules]
  constructor
  · rintro ⟨n, e, hget, hn, hb⟩
    obtain ⟨e', hget', hagree⟩ := h.exists_of_get? hn hget
    exact ⟨n, e', hget', hn, (hchild n e e' hget hget' hn hagree) ▸ hb⟩
  · rintro ⟨n, e', hget', hn, hb⟩
    obtain ⟨e, hget, hagree⟩ := h.symm.exists_of_get? hn hget'
    exact ⟨n, e, hget, hn, hb.trans (by rw [hchild n e e' hget hget' hn hagree.symm])⟩

/-- Walks with the same rules are blocked alike in entries that agree, if links lead them to the
same. -/
theorem blocked_eq_of_agree (hrules : w'.rules = w.rules) (he : e.Sound) (he' : e'.Sound)
    (hd : ∀ n ∈ d, ProperName n) (hlink : SameLooks w w' d e) (h : Agree w.rules d e e') :
    blocked w levels (Path.ofNames d) e = blocked w' levels (Path.ofNames d) e' := by
  have hface := h.face_eq
  induction he generalizing levels d e' with
  | file content =>
      cases e' with
      | link | folder => simp [Entry.face] at hface
      | file content' => rw [blocked, blocked]
  | link target =>
      cases e' with
      | file | folder => simp [Entry.face] at hface
      | link target' =>
          obtain rfl := Entry.link.inj hface
          exact blocked_link_eq (by simpa using hlink [] target kept_nil)
  | @folder entries distinct proper below ih =>
      cases e' with
      | file | link => simp [Entry.face] at hface
      | folder entries' =>
          obtain ⟨distinct', hentries'⟩ := Entry.sound_folder.1 he'
          cases levels with
          | zero => rw [blocked, blocked]
          | succ levels =>
              have hperm : (blockedIn w levels (Path.ofNames d) entries).Perm
                  (blockedIn w' levels (Path.ofNames d) entries') := by
                refine blockedIn_perm_of_agree hrules hd distinct distinct' h ?_
                intro n c c' hget hget' hn hagree
                have hc := Table.mem_of_get? hget
                have hc' := Table.mem_of_get? hget'
                exact ih _ hc (hentries' _ hc').2 (properNames_concat hd (proper _ hc))
                  (hlink.of_get? hn hget) hagree hagree.face_eq
              have hranks : RanksBy (fun a b : Text × List (Text × OsError) => Text.le a.1 b.1)
                  (·.1) := fun a b => Text.le_eq_true_iff
              rw [blocked, blocked, hranks.mergeSort_eq_of_perm _ hperm]
              exact distinct.sublist (names_blockedIn_sublist w levels _ entries)

end Walk

/-! ## What is seen -/

open Walk

/-- Whether two file systems are alike below a root wherever its walk sees them, and lead the links
that it sees there to the same. -/
structure SeenAlike (s : Settings) (fs fs' : FileSystem) (root : Location) : Prop where
  face : ∀ l, s.Sees l →
    (fs.entryAt? (root ++ l)).map Entry.face = (fs'.entryAt? (root ++ l)).map Entry.face
  look : ∀ l target, s.Sees l → fs.entryAt? (root ++ l) = some (.link target) →
    ((fs.stat root (Path.ofNames l)).map (·.2)).map Entry.face =
      ((fs'.stat root (Path.ofNames l)).map (·.2)).map Entry.face

namespace SeenAlike

variable {fs fs' : FileSystem} {root : Location} {s : Settings}

theorem agree (h : SeenAlike s fs fs' root) : Agree (rulesOf s.ignorePatterns) []
    ((Entry.folder (rootEntries fs root)).cut s.maxDepth.toNat)
    ((Entry.folder (rootEntries fs' root)).cut s.maxDepth.toNat) := by
  intro l hl
  rw [Entry.face_at?_cut, Entry.face_at?_cut]
  split
  · rename_i hdepth
    by_cases hne : l = []
    · subst hne
      simp [Entry.face]
    · rw [at?_rootEntries fs root hne, at?_rootEntries fs' root hne]
      exact h.face l ⟨hdepth, hl⟩
  · rfl

theorem sameLooks (h : SeenAlike s fs fs' root) :
    SameLooks (ofSettings fs root s .byPath) (ofSettings fs' root s .byPath) []
      ((Entry.folder (rootEntries fs root)).cut s.maxDepth.toNat) := by
  intro l target hl hat
  have hface := Entry.face_at?_cut (.folder (rootEntries fs root)) s.maxDepth.toNat l
  rw [hat] at hface
  split at hface
  · rename_i hdepth
    obtain ⟨e, he, hface⟩ := Option.map_eq_some_iff.1 hface.symm
    obtain rfl := Entry.face_eq_link.1 hface
    by_cases hne : l = []
    · subst hne
      simp at he
    · rw [at?_rootEntries fs root hne] at he
      exact h.look l target ⟨hdepth, hl⟩ he
  · simp at hface

/-- One tree is seen in both file systems. -/
theorem take_eq (h : SeenAlike s fs fs' root) (hfs : fs.Sound) (hfs' : fs'.Sound) :
    Snapshot.take fs root s = Snapshot.take fs' root s := by
  -- Agreement is for whole entries, so both are cut where the walk stops.
  have hnode : node? (ofSettings fs root s .byPath) s.maxDepth.toNat (rootName root)
        (Path.ofNames []) ((Entry.folder (rootEntries fs root)).cut s.maxDepth.toNat) =
      node? (ofSettings fs' root s .byPath) s.maxDepth.toNat (rootName root)
        (Path.ofNames []) ((Entry.folder (rootEntries fs' root)).cut s.maxDepth.toNat) :=
    node?_eq_of_agree rfl rfl ((sound_rootEntries hfs root).cut _)
      ((sound_rootEntries hfs' root).cut _) (by simp) h.sameLooks h.agree
  rw [node?_cut, node?_cut, Path.ofNames_nil, node?_root, node?_root] at hnode
  rw [Snapshot.take, Snapshot.take, Option.some.inj hnode]

/-- The same is noted of both walks. -/
theorem walkNotes_eq (h : SeenAlike s fs fs' root) (hfs : fs.Sound) (hfs' : fs'.Sound)
    {snap : Snapshot} (hroot : snap.root = root) :
    Survey.walkNotes fs s snap = Survey.walkNotes fs' s snap := by
  have hblocked : blocked (ofSettings fs root s .byPath) s.maxDepth.toNat (Path.ofNames [])
        ((Entry.folder (rootEntries fs root)).cut s.maxDepth.toNat) =
      blocked (ofSettings fs' root s .byPath) s.maxDepth.toNat (Path.ofNames [])
        ((Entry.folder (rootEntries fs' root)).cut s.maxDepth.toNat) :=
    blocked_eq_of_agree rfl ((sound_rootEntries hfs root).cut _)
      ((sound_rootEntries hfs' root).cut _) (by simp) h.sameLooks h.agree
  rw [blocked_cut, blocked_cut, Path.ofNames_nil] at hblocked
  simp only [Survey.walkNotes, hroot, hblocked]

end SeenAlike
end CodeSurvey
