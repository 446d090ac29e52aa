import CodeSurvey.Proofs.Ranking
import CodeSurvey.Proofs.Technology.Growth
import Mathlib.Algebra.Order.BigOperators.Group.List
import Mathlib.Order.Bounds.Basic

/-!
# Which technologies are listed, and in which order

Each list of a profile is in strict order of falling confidence and then of names, so that it gives
no name twice, and every entry has something to show for it. A technology that rules tell is listed
exactly if there is a sign of it, and its confidence is the weight of the strongest sign.
Confidences are read as exact numbers.

## Main definitions

* `Technology.key`: what technologies are ranked by.
* `Technology.Grounded t`, `Technology.Ranked ts`: what holds of every entry, and of every list.
* `TechRule.Sign r e q`: some evidence has a sign of a rule's technology, of the weight `q`.
* `ToldBy rules others e ts`: a list says of the technologies of some rules what the evidence says.
-/

namespace CodeSurvey

/-! ## Order -/

namespace Technology

/-- What technologies are ranked by: falling confidence, then the name. -/
def key (t : Technology Rat) : Lex (Rat × Text) := toLex (-t.confidence, t.name)

theorem ranksBy_key : RanksBy (le (α := Rat)) key := by
  intro a b
  simp only [le, key, Prod.Lex.toLex_le_toLex, Quantity.below_rat, decide_eq_true_eq,
    ← Text.le_eq_true_iff]
  rcases lt_trichotomy a.confidence b.confidence with hlt | heq | hgt
  · simp [hlt, hlt.not_gt, hlt.ne]
  · simp [heq]
  · simp [hgt]

/-- Whether a technology has a confidence that is one, and evidence for it. -/
structure Grounded (t : Technology Rat) : Prop where
  positive : 0 < t.confidence
  le_one : t.confidence ≤ 1
  evidence : t.evidence ≠ []

/-- Whether some technologies are in strict order, with no name twice and nothing groundless. -/
structure Ranked (ts : List (Technology Rat)) : Prop where
  ordered : (ts.map key).Pairwise (· < ·)
  distinct : (ts.map name).Nodup
  grounded : ∀ t ∈ ts, t.Grounded

variable {cs : List (Technology Rat)} {t : Technology Rat}

/-- Merging keeps the ground of what is merged. -/
theorem grounded_of_mem_mergeAll (h : ∀ c ∈ cs, c.Grounded) (ht : t ∈ mergeAll cs) :
    t.Grounded := by
  obtain ⟨c, hc, -, hconf⟩ := (tops_of_mem_mergeAll ht).attained
  obtain ⟨d, hd, hprefix⟩ := exists_evidence_prefix_of_mem_mergeAll ht
  refine ⟨hconf ▸ (h c hc).positive, hconf ▸ (h c hc).le_one, ?_⟩
  intro hnil
  exact (h d hd).evidence (List.prefix_nil.1 (hnil ▸ hprefix))

theorem ranked_rank (h : ∀ c ∈ cs, c.Grounded) : Ranked (rank cs) := by
  have hnames := nodup_names_mergeAll cs
  have hkeys : ((mergeAll cs).map key).Nodup :=
    nodup_keys_of_part (fun k => (ofLex k).2) (fun _ => rfl) hnames
  refine ⟨ranksBy_key.pairwise_mergeSort_lt hkeys, ?_, fun t ht => ?_⟩
  · exact ((List.mergeSort_perm (mergeAll cs) le).map name).nodup_iff.2 hnames
  · exact grounded_of_mem_mergeAll h (mem_rank.1 ht)

end Technology

/-! ## Languages -/

section Languages

variable {files : List Text} {t : Technology Rat}

theorem ceiling_of_mem_languageRules : ∀ r ∈ languageRules, 0 < r.ceiling ∧ r.ceiling ≤ 10 := by
  decide

theorem Quantity.tenths_mem_Ioc {n : Nat} (hpos : 0 < n) (hle : n ≤ 10) :
    0 < (tenths n : Rat) ∧ (tenths n : Rat) ≤ 1 := by
  have hpos' : (0 : Rat) < n := by exact_mod_cast hpos
  have hle' : (n : Rat) ≤ 10 := by exact_mod_cast hle
  rw [tenths, ratio_rat]
  constructor
  · exact div_pos hpos' (by norm_num)
  · rw [div_le_one (by norm_num)]
    exact_mod_cast hle'

/-- A language that is found has files. -/
theorem LanguageRule.count_pos {r : LanguageRule} {suffixes : List Text} {s : Text}
    (hs : s ∈ r.suffixes) (hmem : s ∈ suffixes) : 0 < r.count suffixes := by
  have hle := List.single_le_sum (l := r.suffixes.map fun s => suffixes.count s) (by simp) _
    (List.mem_map_of_mem hs)
  have hpos := List.count_pos_iff.2 hmem
  rw [LanguageRule.count]
  exact Nat.lt_of_lt_of_le hpos hle

theorem grounded_of_mem_detectLanguages (ht : t ∈ detectLanguages files) : t.Grounded := by
  obtain ⟨r, hr, ht⟩ := List.mem_filterMap.1 ht
  obtain ⟨hpos, hle⟩ := ceiling_of_mem_languageRules r hr
  obtain ⟨hceiling, hone⟩ := Quantity.tenths_mem_Ioc hpos hle
  rw [LanguageRule.detect?] at ht
  simp only [List.isEmpty_iff, List.filter_eq_nil_iff] at ht
  split at ht
  · contradiction
  · rename_i hfound
    obtain ⟨s, hs, hmem⟩ : ∃ s ∈ r.suffixes, s ∈ suffixesOf files := by simpa using hfound
    have hcount := LanguageRule.count_pos hs hmem
    obtain rfl := Option.some.inj ht
    refine ⟨?_, ?_, by simp⟩
    · simp only [Quantity.least_rat, Quantity.ratio_rat, lt_min_iff]
      exact ⟨hceiling, div_pos (by exact_mod_cast hcount) (by norm_num)⟩
    · simp only [Quantity.least_rat]
      exact min_le_of_left_le hone

end Languages

/-! ## Packages and markers -/

/-- The weight of the markers of a rule in some evidence. Where they count in proportion, it is
scaled by the part of them that is there. -/
def TechRule.weightOfMarkers (r : TechRule) (e : Evidence) : Rat :=
  let whole := (r.markerConfidence : Rat) / 10
  let found := (r.markers.countP e.hasMarker : Rat)
  if r.proportional then whole * (found / (r.markers.length : Rat)) else whole

/-- A sign of the technology of a rule in some evidence, with its weight. -/
inductive TechRule.Sign (r : TechRule) (e : Evidence) : Rat → Prop
  | package {p : Text} (mem : p ∈ r.packages) (named : p ∈ Table.names e.package.dependencies) :
      Sign r e ((r.confidence : Rat) / 10)
  | pythonPackage {p : Text} (mem : p ∈ r.pythonPackages) (named : p ∈ e.python.dependencies) :
      Sign r e ((r.confidence : Rat) / 10)
  | marker {m : Text} (mem : m ∈ r.markers) (present : e.hasMarker m = true) :
      Sign r e (r.weightOfMarkers e)

namespace TechRule

variable {r : TechRule} {e : Evidence} {t : Technology Rat} {q : Rat}

theorem foundPackages_ne_nil_iff :
    r.foundPackages e ≠ [] ↔ ∃ p ∈ r.packages, p ∈ Table.names e.package.dependencies := by
  simp [foundPackages, Table.has_iff_mem_names]

theorem foundPythonPackages_ne_nil_iff :
    r.foundPythonPackages e ≠ [] ↔ ∃ p ∈ r.pythonPackages, p ∈ e.python.dependencies := by
  simp [foundPythonPackages]

theorem foundMarkers_ne_nil_iff :
    r.foundMarkers e ≠ [] ↔ ∃ m ∈ r.markers, e.hasMarker m = true := by
  simp [foundMarkers]

theorem markerWeight_foundMarkers (r : TechRule) (e : Evidence) :
    (r.markerWeight (r.foundMarkers e) : Rat) = r.weightOfMarkers e := by
  simp [markerWeight, weightOfMarkers, foundMarkers, Quantity.tenths, Quantity.ratio_rat,
    List.countP_eq_length_filter]

theorem name_of_mem_detections (ht : t ∈ r.detections e) : t.name = r.name :=
  (exists_mem_detections_iff.1 ⟨t, ht, rfl, rfl⟩).1.symm

/-- What the signs say is what is detected. -/
theorem sign_iff_exists_detection : r.Sign e q ↔ ∃ t ∈ r.detections e, t.confidence = q := by
  have hnamed : (∃ t ∈ r.detections e, t.confidence = q) ↔
      ∃ t ∈ r.detections e, t.name = r.name ∧ t.confidence = q := by
    refine exists_congr fun t => and_congr_right fun ht => ?_
    simp [name_of_mem_detections ht]
  rw [hnamed, exists_mem_detections_iff, foundPackages_ne_nil_iff, foundPythonPackages_ne_nil_iff,
    foundMarkers_ne_nil_iff, markerWeight_foundMarkers, Quantity.tenths, Quantity.ratio_rat]
  constructor
  · rintro (⟨mem, named⟩ | ⟨mem, named⟩ | ⟨mem, present⟩)
    · exact ⟨rfl, .inl ⟨.inl ⟨_, mem, named⟩, rfl⟩⟩
    · exact ⟨rfl, .inl ⟨.inr ⟨_, mem, named⟩, rfl⟩⟩
    · exact ⟨rfl, .inr ⟨⟨_, mem, present⟩, rfl⟩⟩
  · rintro ⟨-, ⟨⟨p, mem, named⟩ | ⟨p, mem, named⟩, rfl⟩ | ⟨⟨m, mem, present⟩, rfl⟩⟩
    · exact .package mem named
    · exact .pythonPackage mem named
    · exact .marker mem present

theorem exists_sign_iff : (∃ q, r.Sign e q) ↔
    (∃ p ∈ r.packages, p ∈ Table.names e.package.dependencies) ∨
      (∃ p ∈ r.pythonPackages, p ∈ e.python.dependencies) ∨
      ∃ m ∈ r.markers, e.hasMarker m = true := by
  constructor
  · rintro ⟨_, ⟨mem, named⟩ | ⟨mem, named⟩ | ⟨mem, present⟩⟩
    · exact .inl ⟨_, mem, named⟩
    · exact .inr (.inl ⟨_, mem, named⟩)
    · exact .inr (.inr ⟨_, mem, present⟩)
  · rintro (⟨p, mem, named⟩ | ⟨p, mem, named⟩ | ⟨m, mem, present⟩)
    · exact ⟨_, .package mem named⟩
    · exact ⟨_, .pythonPackage mem named⟩
    · exact ⟨_, .marker mem present⟩

/-- Weights that a rule uses are those of a confidence. -/
theorem weights_of_mem_techRules : ∀ r ∈ techRules,
    (r.packages ≠ [] ∨ r.pythonPackages ≠ [] → 0 < r.confidence ∧ r.confidence ≤ 10) ∧
      (r.markers ≠ [] → 0 < r.markerConfidence ∧ r.markerConfidence ≤ 10) := by
  decide

/-- The weight of a sign is a confidence. -/
theorem Sign.mem_Ioc (h : r.Sign e q) (hr : r ∈ techRules) : 0 < q ∧ q ≤ 1 := by
  obtain ⟨hpackages, hmarkers⟩ := weights_of_mem_techRules r hr
  cases h with
  | package mem named =>
      obtain ⟨hpos, hle⟩ := hpackages (.inl (List.ne_nil_of_mem mem))
      simpa [Quantity.tenths, Quantity.ratio_rat] using Quantity.tenths_mem_Ioc hpos hle
  | pythonPackage mem named =>
      obtain ⟨hpos, hle⟩ := hpackages (.inr (List.ne_nil_of_mem mem))
      simpa [Quantity.tenths, Quantity.ratio_rat] using Quantity.tenths_mem_Ioc hpos hle
  | marker mem present =>
      obtain ⟨hpos, hle⟩ := hmarkers (List.ne_nil_of_mem mem)
      have hweight : 0 < (r.markerConfidence / 10 : Rat) ∧ (r.markerConfidence / 10 : Rat) ≤ 1 := by
        simpa [Quantity.tenths, Quantity.ratio_rat] using Quantity.tenths_mem_Ioc hpos hle
      have hcount : 0 < r.markers.countP e.hasMarker := List.countP_pos_iff.2 ⟨_, mem, present⟩
      have hcount' : (0 : Rat) < r.markers.countP e.hasMarker := by exact_mod_cast hcount
      have hall : (r.markers.countP e.hasMarker : Rat) ≤ r.markers.length := by
        exact_mod_cast List.countP_le_length
      have hlength := hcount'.trans_le hall
      simp only [weightOfMarkers]
      split
      · constructor
        · exact mul_pos hweight.1 (div_pos hcount' hlength)
        · exact mul_le_one₀ hweight.2 (div_pos hcount' hlength).le
            ((div_le_one hlength).2 hall)
      · exact hweight

theorem grounded_of_mem_detections (hr : r ∈ techRules) (ht : t ∈ r.detections e) :
    t.Grounded := by
  have hsign : r.Sign e t.confidence := sign_iff_exists_detection.2 ⟨t, ht, rfl⟩
  have hevidence : t.evidence ≠ [] := by
    rw [detections] at ht
    simp only [List.mem_append] at ht
    rcases ht with (ht | ht) | ht
    all_goals
      split at ht
      · simp at ht
      · rw [List.mem_singleton.1 ht]
        simp
  exact ⟨(hsign.mem_Ioc hr).1, (hsign.mem_Ioc hr).2, hevidence⟩

end TechRule

/-! ## Rules -/

/-- Whether a list of technologies holds those of some rules of which there is a sign, each with the
weight of its strongest sign, and besides them only such as have one of the other names. -/
structure ToldBy (rules : List TechRule) (others : List Text) (e : Evidence)
    (ts : List (Technology Rat)) : Prop where
  listed : ∀ r ∈ rules, (∃ t ∈ ts, t.name = r.name) ↔
    (∃ p ∈ r.packages, p ∈ Table.names e.package.dependencies) ∨
      (∃ p ∈ r.pythonPackages, p ∈ e.python.dependencies) ∨
      ∃ m ∈ r.markers, e.hasMarker m = true
  confidence : ∀ r ∈ rules, ∀ t ∈ ts, t.name = r.name → IsGreatest {q | r.Sign e q} t.confidence
  named : ∀ t ∈ ts, t.name ∈ rules.map TechRule.name ∨ t.name ∈ others

section Rules

variable {rules : List TechRule} {r : TechRule} {e : Evidence} {t : Technology Rat}
  {extra : List (Technology Rat)} {others : List Text} {q : Rat}

theorem tops_of_mem_rank (ht : t ∈ rank (detectByRules rules e ++ extra)) :
    t.Tops ((rules.flatMap fun r => r.detections e) ++ extra) :=
  (tops_of_mem_mergeAll (mem_rank.1 ht)).of_mergeAll_append

/-- Where rules have distinct names, what has the name of a rule has a confidence that the rule
gives. -/
theorem sign_of_mem_rank (hrules : (rules.map TechRule.name).Nodup)
    (hextra : ∀ c ∈ extra, c.name ∈ others) (hothers : ∀ n ∈ others, n ∉ rules.map TechRule.name)
    (hr : r ∈ rules)
    (ht : t ∈ rank (detectByRules rules e ++ extra)) (hname : t.name = r.name) :
    r.Sign e t.confidence := by
  obtain ⟨c, hc, hcname, hconf⟩ := (tops_of_mem_rank ht).attained
  have hcr : c.name = r.name := hcname.trans hname
  rcases List.mem_append.1 hc with hc | hc
  · obtain ⟨r', hr', hc⟩ := List.mem_flatMap.1 hc
    have hname' := (TechRule.name_of_mem_detections hc).symm.trans hcr
    obtain rfl := List.inj_on_of_nodup_map hrules hr' hr hname'
    exact TechRule.sign_iff_exists_detection.2 ⟨c, hc, hconf⟩
  · exact absurd (hcr ▸ List.mem_map_of_mem hr) (hothers _ (hextra c hc))

theorem exists_mem_rank_of_sign (hr : r ∈ rules) (h : r.Sign e q) :
    ∃ t ∈ rank (detectByRules rules e ++ extra), t.name = r.name := by
  obtain ⟨c, hc, -⟩ := TechRule.sign_iff_exists_detection.1 h
  have hcand : c ∈ rules.flatMap fun r => r.detections e := List.mem_flatMap.2 ⟨r, hr, hc⟩
  obtain ⟨m, hm, hmname⟩ := exists_mem_mergeAll hcand
  obtain ⟨t, ht, htname⟩ := exists_mem_mergeAll (List.mem_append_left extra hm)
  exact ⟨t, mem_rank.2 ht,
    htname.trans (hmname.trans (TechRule.name_of_mem_detections hc))⟩

theorem confidence_le_of_sign (hr : r ∈ rules) (ht : t ∈ rank (detectByRules rules e ++ extra))
    (hname : t.name = r.name) (h : r.Sign e q) : q ≤ t.confidence := by
  obtain ⟨c, hc, rfl⟩ := TechRule.sign_iff_exists_detection.1 h
  refine (tops_of_mem_rank ht).highest c (List.mem_append_left _ ?_) ?_
  · exact List.mem_flatMap.2 ⟨r, hr, hc⟩
  · exact (TechRule.name_of_mem_detections hc).trans hname.symm

/-- Ranked detections of rules with distinct names say what the evidence says, also beside others
that have no name of a rule. -/
theorem toldBy_rank (hrules : (rules.map TechRule.name).Nodup)
    (hextra : ∀ c ∈ extra, c.name ∈ others)
    (hothers : ∀ n ∈ others, n ∉ rules.map TechRule.name) :
    ToldBy rules others e (rank (detectByRules rules e ++ extra)) := by
  refine ⟨fun r hr => ?_, fun r hr t ht hname => ?_, fun t ht => ?_⟩
  · rw [← TechRule.exists_sign_iff]
    constructor
    · rintro ⟨t, ht, hname⟩
      exact ⟨_, sign_of_mem_rank hrules hextra hothers hr ht hname⟩
    · rintro ⟨q, hsign⟩
      exact exists_mem_rank_of_sign hr hsign
  · exact ⟨sign_of_mem_rank hrules hextra hothers hr ht hname,
      fun q hsign => confidence_le_of_sign hr ht hname hsign⟩
  · obtain ⟨c, hc, hname, -⟩ := (tops_of_mem_rank ht).attained
    rw [← hname]
    rcases List.mem_append.1 hc with hc | hc
    · obtain ⟨r, hr, hc⟩ := List.mem_flatMap.1 hc
      rw [TechRule.name_of_mem_detections hc]
      exact .inl (List.mem_map_of_mem hr)
    · exact .inr (hextra c hc)

/-- The rules of a table give confidences and evidence. -/
theorem grounded_of_mem_detectByRules (hrules : rules ⊆ techRules)
    (ht : t ∈ detectByRules rules e) : t.Grounded := by
  refine Technology.grounded_of_mem_mergeAll (fun c hc => ?_) ht
  obtain ⟨r, hr, hc⟩ := List.mem_flatMap.1 hc
  exact TechRule.grounded_of_mem_detections (hrules hr) hc

/-- A table of rules makes a list that is ranked and says what the evidence says. -/
theorem ranked_and_toldBy (e : Evidence) (hrules : (rules.map TechRule.name).Nodup)
    (htable : rules ⊆ techRules) :
    Technology.Ranked (rank (detectByRules rules e)) ∧
      ToldBy rules [] e (rank (detectByRules rules e)) := by
  have htold : ToldBy rules [] e (rank (detectByRules rules e ++ [])) :=
    toldBy_rank hrules (by simp) (by simp)
  rw [List.append_nil] at htold
  exact ⟨Technology.ranked_rank fun c hc => grounded_of_mem_detectByRules htable hc, htold⟩

end Rules

/-! ## Databases without a kind -/

theorem mem_schemaDatabase {files : List Text} {t : Technology Rat}
    (ht : t ∈ schemaDatabase files) : t.Grounded ∧ t.name = "SQL Database".toList := by
  simp only [schemaDatabase] at ht
  split at ht
  · simp at ht
  · obtain rfl := List.mem_singleton.1 ht
    obtain ⟨hpos, hle⟩ := Quantity.tenths_mem_Ioc (n := 6) (by decide) (by decide)
    exact ⟨⟨hpos, hle, by simp⟩, rfl⟩

/-! ## Profiles -/

/-- Whatever the files of a snapshot, the manifests and the markers, all lists of a profile are in
strict order, without a name twice and with nothing groundless, and the four that rules tell say
what the evidence says. The profile of a repository is the one that its manifests, if they are got
over, and its markers show. -/
theorem TechnologyProfile.lists_say_what_evidence_says [Host] :
    (∀ (fs : FileSystem) (root : Location) (files : List Text),
      (detect fs root files : Logged ManifestFailure (TechnologyProfile Rat)).result =
        (bothManifests fs root).map fun m => ofEvidence files ⟨m.1, m.2, fs.present root⟩) ∧
    ∀ (files : List Text) (e : Evidence),
      let p : TechnologyProfile Rat := ofEvidence files e
      (Technology.Ranked p.languages ∧ Technology.Ranked p.frameworks ∧
        Technology.Ranked p.databases ∧ Technology.Ranked p.tools ∧
        Technology.Ranked p.libraries) ∧
      ToldBy frameworkRules [] e p.frameworks ∧
      ToldBy databaseRules ["SQL Database".toList] e p.databases ∧
      ToldBy toolRules [] e p.tools ∧
      ToldBy libraryRules [] e p.libraries := by
  refine ⟨result_detect, fun files e => ?_⟩
  have hframeworks : frameworkRules ⊆ techRules := fun r hr => by simp [techRules, hr]
  have hdatabases : databaseRules ⊆ techRules := fun r hr => by simp [techRules, hr]
  have htools : toolRules ⊆ techRules := fun r hr => by simp [techRules, hr]
  have hlibraries : libraryRules ⊆ techRules := fun r hr => by simp [techRules, hr]
  obtain ⟨hframeworks, hframeworks'⟩ := ranked_and_toldBy e (by decide +kernel) hframeworks
  obtain ⟨htools, htools'⟩ := ranked_and_toldBy e (by decide +kernel) htools
  obtain ⟨hlibraries, hlibraries'⟩ := ranked_and_toldBy e (by decide +kernel) hlibraries
  refine ⟨⟨?_, hframeworks, ?_, htools, hlibraries⟩, hframeworks', ?_, htools', hlibraries'⟩
  · exact Technology.ranked_rank fun c hc => grounded_of_mem_detectLanguages hc
  · refine Technology.ranked_rank fun c hc => ?_
    rcases List.mem_append.1 hc with hc | hc
    · exact grounded_of_mem_detectByRules hdatabases hc
    · exact (mem_schemaDatabase hc).1
  · refine toldBy_rank (by decide +kernel) (fun c hc => ?_) (by decide +kernel)
    exact List.mem_singleton.2 (mem_schemaDatabase hc).2

end CodeSurvey
