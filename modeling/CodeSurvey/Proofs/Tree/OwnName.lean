import CodeSurvey.Proofs.Tree.Nodes

/-!
# Rules tested on an entry's own name

A rule looks at every component of a path. A walk needs less: it never enters a folder that is
ignored, so of all the components of a path that it comes to only the last can be one that a rule
covers. Testing the name of each entry, and its path as a whole, gives the same tree.

## Main definitions

* `IgnoreRule.coversEntry`, `ignoredEntry rules path name`: the test on the name and the whole path.
* `walkTreeBy skips`: the walk that leaves out what the test `skips` says.
-/

namespace CodeSurvey

/-! ## The test on a name -/

/-- Whether the rule covers an entry by its name or by its path as a whole. A literal without a
slash has to be the name, one with a slash may stand anywhere in the path, and a wildcard may take
either of them. -/
def IgnoreRule.coversEntry (r : IgnoreRule) (path name : Text) : Bool :=
  if r.body.isEmpty then false
  else if r.isGlob then
    let items := Wildcard.read r.body
    Wildcard.covers items name || Wildcard.covers items path
  else if r.body.contains '/' then Text.occursIn r.body path
  else name == r.body

/-- Whether some rule covers an entry by its name or by its path as a whole. -/
def ignoredEntry (rules : List IgnoreRule) (path name : Text) : Bool :=
  rules.any (·.coversEntry path name)

namespace IgnoreRule

variable {r : IgnoreRule} {path name : Text} {names : Location}

/-- A rule covers a path if it covers one of the components as if that were the entry. -/
theorem covers_ofNames (h : ∀ n ∈ names, ProperName n) (hne : names ≠ []) :
    r.covers (Path.ofNames names) = names.any (r.coversEntry (Path.ofNames names)) := by
  obtain ⟨n, rest, rfl⟩ := List.exists_cons_of_ne_nil hne
  rw [covers, Path.splitOn_ofNames h hne, Bool.eq_iff_iff, List.any_eq_true]
  simp only [coversEntry]
  split
  · simp
  · split
    · simp only [Bool.or_eq_true, List.any_eq_true]
      constructor
      · rintro (hpath | ⟨m, hm, hname⟩)
        · exact ⟨n, List.mem_cons_self, .inr hpath⟩
        · exact ⟨m, hm, .inl hname⟩
      · rintro ⟨m, hm, hname | hpath⟩
        · exact .inr ⟨m, hm, hname⟩
        · exact .inl hpath
    · split
      · constructor
        · exact fun hpath => ⟨n, List.mem_cons_self, hpath⟩
        · rintro ⟨-, -, hpath⟩
          exact hpath
      · simp

/-- What a rule covers it covers by the path, whatever the name, or by the name, whatever the
path. -/
theorem coversEntry_path_or_name (h : r.coversEntry path name = true) :
    (∀ n, r.coversEntry path n = true) ∨ ∀ p, r.coversEntry p name = true := by
  unfold coversEntry at h ⊢
  split at h
  · simp at h
  · split at h
    · rcases Bool.or_eq_true _ _ ▸ h with hname | hpath
      · exact .inr fun p => by simp_all
      · exact .inl fun n => by simp_all
    · split at h
      · exact .inl fun n => by simp_all
      · exact .inr fun p => by simp_all

/-- Where the rule covers no folder on the way, it covers a path if it covers the entry. -/
theorem covers_eq_coversEntry {d : Location} (hd : ∀ m ∈ d, ProperName m) (hname : ProperName name)
    (hway : ∀ k, k <+: d → k ≠ [] → r.covers (Path.ofNames k) = false) :
    r.covers (Path.ofNames (d ++ [name])) = r.coversEntry (Path.ofNames (d ++ [name])) name := by
  rw [covers_ofNames (properNames_concat hd hname) (by simp), List.any_append, List.any_cons,
    List.any_nil, Bool.or_false, Bool.or_eq_right_iff_imp, List.any_eq_true]
  rintro ⟨m, hm, hcovers⟩
  rcases coversEntry_path_or_name hcovers with hpath | hname
  · exact hpath name
  · -- A rule that covers the name of a folder covers the path of that folder.
    obtain ⟨k, rest, rfl⟩ := List.append_of_mem hm
    have hbegin : k ++ [m] <+: k ++ m :: rest := ⟨rest, by simp⟩
    have hcovered : r.covers (Path.ofNames (k ++ [m])) = true := by
      rw [covers_ofNames (fun x hx => hd x (hbegin.subset hx)) (by simp), List.any_eq_true]
      exact ⟨m, by simp, hname _⟩
    rw [hway _ hbegin (by simp)] at hcovered
    contradiction

end IgnoreRule

/-- Where no folder on the way is ignored, the rules ignore a path if they ignore the entry. -/
theorem ignored_eq_ignoredEntry {rules : List IgnoreRule} {d : Location} {n : Text}
    (hd : ∀ m ∈ d, ProperName m) (hn : ProperName n) (hkept : Kept rules [] d) :
    ignored rules (Path.ofNames (d ++ [n])) =
      ignoredEntry rules (Path.ofNames (d ++ [n])) n := by
  have hrule : ∀ r ∈ rules, r.covers (Path.ofNames (d ++ [n])) =
      r.coversEntry (Path.ofNames (d ++ [n])) n := by
    intro r hr
    refine IgnoreRule.covers_eq_coversEntry hd hn fun k hk hne => ?_
    simpa using List.any_eq_false.1 (hkept k hk hne) r hr
  rw [ignored, ignoredEntry, Bool.eq_iff_iff, List.any_eq_true, List.any_eq_true]
  refine exists_congr fun r => and_congr_right fun hr => ?_
  rw [hrule r hr]

/-! ## Walks by a test -/

namespace Walk

mutual

/-- The node of an entry in a walk that leaves out what the test says of a path and a name. -/
def nodeBy? (w : Walk) (skips : Text → Text → Bool) (levels : Nat) (name path : Text) :
    Entry → Option TreeNode
  | .file content => w.node? levels name path (.file content)
  | .link target => w.node? levels name path (.link target)
  | .folder entries =>
    match levels with
    | 0 => some (w.folderNode name path [])
    | levels + 1 => some (w.folderNode name path (nodesBy w skips levels path entries))

/-- The nodes of the entries of a folder in such a walk. -/
def nodesBy (w : Walk) (skips : Text → Text → Bool) (levels : Nat) (folder : Text) :
    List (Text × Entry) → List TreeNode
  | [] => []
  | (name, e) :: rest =>
    let path := Path.child folder name
    if skips path name then nodesBy w skips levels folder rest
    else (nodeBy? w skips levels name path e).toList ++ nodesBy w skips levels folder rest

end

end Walk

open Walk in
/-- The tree below a root that a walk finds which leaves out what the test says. -/
def walkTreeBy (skips : Text → Text → Bool) (fs : FileSystem) (root : Location) (s : Settings)
    (scorer : Scorer) : TreeNode :=
  let w := ofSettings fs root s scorer
  let children := match s.maxDepth.toNat with
    | 0 => []
    | levels + 1 => nodesBy w skips levels [] (rootEntries fs root)
  w.folderNode (rootName root) [] children

namespace Walk

variable {w : Walk} {levels : Nat} {name : Text} {d : Location} {e : Entry}

theorem nodesBy_eq_nodes {skips : Text → Text → Bool} {folder : Text}
    {entries : List (Text × Entry)}
    (hskips : ∀ c ∈ entries, skips (Path.child folder c.1) c.1 =
      ignored w.rules (Path.child folder c.1))
    (hbelow : ∀ c ∈ entries, ignored w.rules (Path.child folder c.1) = false →
      nodeBy? w skips levels c.1 (Path.child folder c.1) c.2 =
        node? w levels c.1 (Path.child folder c.1) c.2) :
    nodesBy w skips levels folder entries = nodes w levels folder entries := by
  induction entries with
  | nil => rw [nodesBy, nodes]
  | cons c entries ih =>
      have ih := ih (fun c hc => hskips c (List.mem_cons_of_mem _ hc))
        fun c hc => hbelow c (List.mem_cons_of_mem _ hc)
      have hc : c ∈ c :: entries := List.mem_cons_self
      rw [nodesBy, nodes]
      simp only [hskips c hc, ih]
      split
      · rfl
      · rename_i hkept
        rw [hbelow c hc (by simpa using hkept)]

mutual

/-- With the test on whole paths the walk by a test is the walk itself. -/
theorem nodeBy?_ignored (w : Walk) (levels : Nat) (name path : Text) :
    ∀ e, nodeBy? w (fun path _ => ignored w.rules path) levels name path e =
      node? w levels name path e
  | .file content => by rw [nodeBy?]
  | .link target => by rw [nodeBy?]
  | .folder entries => by
    cases levels with
    | zero => rw [nodeBy?, node?]
    | succ levels => rw [nodeBy?, node?, nodesBy_ignored w levels path entries]

theorem nodesBy_ignored (w : Walk) (levels : Nat) (folder : Text) :
    ∀ entries, nodesBy w (fun path _ => ignored w.rules path) levels folder entries =
      nodes w levels folder entries
  | [] => by rw [nodesBy, nodes]
  | (name, e) :: rest => by
    rw [nodesBy, nodes, nodeBy?_ignored w levels name _ e, nodesBy_ignored w levels folder rest]

end

/-- Below a folder on the way to which nothing is ignored, testing the names gives the nodes of the
walk. -/
theorem nodeBy?_ignoredEntry (he : e.Sound) (hd : ∀ n ∈ d, ProperName n)
    (hkept : Kept w.rules [] d) :
    nodeBy? w (ignoredEntry w.rules) levels name (Path.ofNames d) e =
      node? w levels name (Path.ofNames d) e := by
  induction he generalizing levels name d with
  | file content => rw [nodeBy?]
  | link target => rw [nodeBy?]
  | @folder entries distinct proper below ih =>
      cases levels with
      | zero => rw [nodeBy?, node?]
      | succ levels =>
          rw [nodeBy?, node?, nodesBy_eq_nodes]
          · intro c hc
            rw [Path.child_ofNames hd, ignored_eq_ignoredEntry hd (proper c hc) hkept]
          · intro c hc hfree
            rw [Path.child_ofNames hd] at hfree ⊢
            exact ih c hc (properNames_concat hd (proper c hc)) (kept_concat.2 ⟨hkept, hfree⟩)

end Walk

/-! ## The tree -/

variable {fs : FileSystem} {root : Location} {s : Settings} {scorer : Scorer}

open Walk in
theorem walkTreeBy_eq_of_nodeBy? {skips : Text → Text → Bool}
    (h : ∀ levels name, nodeBy? (ofSettings fs root s scorer) skips levels name []
      (.folder (rootEntries fs root)) = node? (ofSettings fs root s scorer) levels name []
        (.folder (rootEntries fs root))) :
    walkTreeBy skips fs root s scorer = walkTree fs root s scorer := by
  have hroot : nodeBy? (ofSettings fs root s scorer) skips s.maxDepth.toNat (rootName root) []
      (.folder (rootEntries fs root)) = some (walkTreeBy skips fs root s scorer) := by
    rw [walkTreeBy]
    cases s.maxDepth.toNat with
    | zero => rw [nodeBy?]
    | succ levels => rw [nodeBy?]
  rw [h, node?_root] at hroot
  exact (Option.some.inj hroot).symm

/-- The walk by the test on whole paths is the walk. -/
theorem walkTreeBy_ignored (fs : FileSystem) (root : Location) (s : Settings) (scorer : Scorer) :
    walkTreeBy (fun path _ => ignored (rulesOf s.ignorePatterns) path) fs root s scorer =
      walkTree fs root s scorer :=
  walkTreeBy_eq_of_nodeBy? fun levels name => Walk.nodeBy?_ignored _ levels name [] _

/-- A walk that tests the name of each entry and its path as a whole finds the tree that it finds
by testing every component of the path. -/
theorem walkTreeBy_ignoredEntry (hfs : fs.Sound) (root : Location) (s : Settings)
    (scorer : Scorer) :
    walkTreeBy (ignoredEntry (rulesOf s.ignorePatterns)) fs root s scorer =
        walkTreeBy (fun path _ => ignored (rulesOf s.ignorePatterns) path) fs root s scorer ∧
      walkTreeBy (ignoredEntry (rulesOf s.ignorePatterns)) fs root s scorer =
        walkTree fs root s scorer := by
  have hwalk : walkTreeBy (ignoredEntry (rulesOf s.ignorePatterns)) fs root s scorer =
      walkTree fs root s scorer := by
    refine walkTreeBy_eq_of_nodeBy? fun levels name => ?_
    exact Walk.nodeBy?_ignoredEntry (d := []) (w := Walk.ofSettings fs root s scorer)
      (Walk.sound_rootEntries hfs root) (by simp) kept_nil
  exact ⟨hwalk.trans (walkTreeBy_ignored fs root s scorer).symm, hwalk⟩

/-- A module in a folder that is ignored, and its like outside. -/
def sheltered : FileSystem where
  top := [("app.py", .file ⟨#[120]⟩), ("build", .folder [("app.py", .file ⟨#[120]⟩)])]

/-- The two tests differ on the module in the ignored folder, to which no walk comes. -/
theorem walkTreeBy_sheltered : sheltered.Sound ∧
    (ignored (rulesOf Settings.standard.ignorePatterns) "build/app.py" = true ∧
      ignoredEntry (rulesOf Settings.standard.ignorePatterns) "build/app.py" "app.py" = false) ∧
    walkTreeBy (ignoredEntry (rulesOf Settings.standard.ignorePatterns)) sheltered [] .standard
      .byPath = walkTree sheltered [] .standard .byPath := by
  have hsound : sheltered.Sound := by
    simp [FileSystem.Sound, sheltered, Table.names, properName_iff]
  have hignored : ignored (rulesOf Settings.standard.ignorePatterns) "build/app.py" = true := by
    decide +kernel
  have hentry : ignoredEntry (rulesOf Settings.standard.ignorePatterns) "build/app.py" "app.py" =
      false := by
    decide +kernel
  have h := walkTreeBy_ignoredEntry hsound [] .standard .byPath
  exact ⟨hsound, ⟨hignored, hentry⟩, h.2⟩

end CodeSurvey
