import CodeSurvey.Proofs.FileSystem.Sound
import CodeSurvey.Technology.Basic
import Mathlib.Algebra.Order.Ring.Rat
import Mathlib.Data.List.Induction

/-!
# The entry of a name

Detections are merged one after the other into a table. What the table holds under a name is made of
the detections of that name alone, merged in their order, and each field of the entry goes by a rule
of its own. The confidence is that of the first of the strongest detections. The evidence is put
together in the order in which it was first seen. The version is that of the first of the strongest
if it says something, and otherwise one that another detection gives. The entries stand in the order
in which their names were first detected.

Confidences need not be numbers of any kind: it is enough that the test for being less puts those of
the detections in a total order.

## Main definitions

* `Technology.mergeInto entry candidate`: the entry of a name after one more detection.
* `Technology.ComparedBy measure cs`: the confidences of the detections are in a total order.
* `Technology.FirstStrongest measure ds c`: `c` is the first of the strongest detections.
* `Technology.MergedFrom measure ds t`: `t` is what detections of one name are merged into.
-/

namespace CodeSurvey

/-! ## The table of detections -/

section Table

variable {α : Type} [Quantity α] {t : Table (Technology α)} {c : Technology α}
  {cs : List (Technology α)} {n : Text}

/-- The entry of a name after one more detection of it. -/
def Technology.mergeInto (entry : Option (Technology α)) (candidate : Technology α) :
    Technology α :=
  (entry.map fun current => current.merge candidate).getD candidate

theorem addDetection_eq_put (t : Table (Technology α)) (c : Technology α) :
    addDetection t c = Table.put t c.name (Technology.mergeInto (Table.get? t c.name) c) := by
  rw [addDetection]
  cases Table.get? t c.name <;> rfl

theorem get?_addDetection (t : Table (Technology α)) (c : Technology α) (n : Text) :
    Table.get? (addDetection t c) n =
      if n == c.name then some (Technology.mergeInto (Table.get? t n) c) else Table.get? t n := by
  rw [addDetection_eq_put, Table.get?_put]
  split
  · rename_i hn
    rw [eq_of_beq hn]
  · rfl

/-- The entry of a name is made of the detections of that name, in their order. -/
theorem get?_foldl_addDetection (cs : List (Technology α)) (t : Table (Technology α)) (n : Text) :
    Table.get? (cs.foldl addDetection t) n =
      (cs.filter (n == ·.name)).foldl (fun entry c => some (Technology.mergeInto entry c))
        (Table.get? t n) := by
  induction cs generalizing t with
  | nil => rfl
  | cons c cs ih =>
      rw [List.foldl_cons, ih, get?_addDetection, List.filter_cons]
      split <;> rfl

theorem nodup_names_foldl_addDetection (h : (Table.names t).Nodup) (cs : List (Technology α)) :
    (Table.names (cs.foldl addDetection t)).Nodup := by
  induction cs generalizing t with
  | nil => exact h
  | cons c cs ih =>
      rw [List.foldl_cons]
      refine ih ?_
      rw [addDetection_eq_put]
      exact Table.nodup_names_put h _ _

theorem foldl_mergeInto (cs : List (Technology α)) (c : Technology α) :
    cs.foldl (fun entry c => some (Technology.mergeInto entry c)) (some c) =
      some (cs.foldl Technology.merge c) := by
  induction cs generalizing c with
  | nil => rfl
  | cons d cs ih => exact ih (c.merge d)

/-- The detections of one name merged, if there are any. -/
def mergedOf? (cs : List (Technology α)) (n : Text) : Option (Technology α) :=
  match cs.filter (n == ·.name) with
  | [] => none
  | c :: rest => some (rest.foldl Technology.merge c)

theorem get?_merged (cs : List (Technology α)) (n : Text) :
    Table.get? (cs.foldl addDetection []) n = mergedOf? cs n := by
  rw [get?_foldl_addDetection, mergedOf?]
  cases cs.filter (n == ·.name) with
  | nil => rfl
  | cons c rest => exact foldl_mergeInto rest c

@[simp] theorem Technology.name_foldl_merge (cs : List (Technology α)) (c : Technology α) :
    (cs.foldl Technology.merge c).name = c.name := by
  induction cs generalizing c with
  | nil => rfl
  | cons d cs ih => exact ih (c.merge d)

theorem mergedOf?_eq_some_iff_mem {t : Technology α} :
    mergedOf? cs n = some t ↔ (n, t) ∈ cs.foldl addDetection [] := by
  have hnodup := nodup_names_foldl_addDetection (t := ([] : Table (Technology α)))
    (by simp [Table.names]) cs
  rw [← Table.get?_eq_some_iff_mem hnodup, get?_merged]

/-- Merging keeps the merged detections of each name. -/
theorem mem_mergeAll {t : Technology α} : t ∈ mergeAll cs ↔ ∃ n, mergedOf? cs n = some t := by
  simp [mergeAll, mergedOf?_eq_some_iff_mem]

/-- What is merged under a name are detections of that name, the first of which comes first. -/
theorem exists_of_mergedOf?_eq_some {t : Technology α} (h : mergedOf? cs n = some t) :
    ∃ c rest, (∀ d, d ∈ c :: rest ↔ d ∈ cs ∧ d.name = n) ∧ t = rest.foldl Technology.merge c := by
  rw [mergedOf?] at h
  split at h
  · contradiction
  · rename_i c rest hfilter
    refine ⟨c, rest, fun d => ?_, (Option.some.inj h).symm⟩
    rw [← hfilter, List.mem_filter, beq_iff_eq, eq_comm (a := n)]

/-- The name of an entry is the one that it stands under. -/
theorem map_name_mergeAll (cs : List (Technology α)) :
    (mergeAll cs).map Technology.name = Table.names (cs.foldl addDetection []) := by
  rw [mergeAll, Table.names, List.map_map]
  refine List.map_congr_left fun entry hentry => ?_
  obtain ⟨c, rest, hmem, ht⟩ := exists_of_mergedOf?_eq_some (mergedOf?_eq_some_iff_mem.2 hentry)
  rw [Function.comp_apply, ht, Technology.name_foldl_merge]
  exact ((hmem c).1 List.mem_cons_self).2

/-- Merging gives each name once. -/
theorem nodup_names_mergeAll (cs : List (Technology α)) :
    ((mergeAll cs).map Technology.name).Nodup := by
  rw [map_name_mergeAll]
  exact nodup_names_foldl_addDetection (by simp [Table.names]) cs

/-- Evidence is only added to. -/
theorem Technology.evidence_prefix_foldl_merge (cs : List (Technology α)) (c : Technology α) :
    c.evidence <+: (cs.foldl merge c).evidence := by
  induction cs generalizing c with
  | nil => exact List.prefix_rfl
  | cons d cs ih => exact (List.prefix_append _ _).trans (ih (c.merge d))

/-- What is merged has all evidence of one of the detections. -/
theorem exists_evidence_prefix_of_mem_mergeAll {t : Technology α} (h : t ∈ mergeAll cs) :
    ∃ c ∈ cs, c.evidence <+: t.evidence := by
  obtain ⟨n, h⟩ := mem_mergeAll.1 h
  obtain ⟨c, rest, hmem, rfl⟩ := exists_of_mergedOf?_eq_some h
  exact ⟨c, ((hmem c).1 List.mem_cons_self).1, Technology.evidence_prefix_foldl_merge rest c⟩

theorem mem_rank {t : Technology α} : t ∈ rank cs ↔ t ∈ mergeAll cs := by
  rw [rank, List.mem_mergeSort]

end Table

/-! ## Items in the order of their first appearance -/

section Firsts

variable {α : Type} [BEq α] [LawfulBEq α] {as bs : List α}

theorem eraseDups_eq_self (h : as.Nodup) : as.eraseDups = as := by
  induction as with
  | nil => rfl
  | cons a as ih =>
      obtain ⟨ha, has⟩ := List.nodup_cons.1 h
      have hfilter : as.filter (fun b => !b == a) = as := by
        rw [List.filter_eq_self]
        intro b hb
        simpa using fun heq : b = a => ha (heq ▸ hb)
      rw [List.eraseDups_cons, hfilter, ih has]

/-- Distinct items are added to others as far as they are not among them. -/
theorem eraseDups_append_of_nodup (h : bs.Nodup) :
    (as ++ bs).eraseDups = as.eraseDups ++ bs.filter fun b => !as.eraseDups.contains b := by
  have hnew : bs.removeAll as = bs.filter fun b => !as.eraseDups.contains b := by
    rw [List.removeAll]
    refine List.filter_congr fun b _ => ?_
    rw [Bool.eq_iff_iff]
    simp [List.mem_eraseDups]
  rw [List.eraseDups_append, hnew, eraseDups_eq_self (h.filter _)]

end Firsts

namespace Technology

/-! ## One more detection -/

section Parts

variable {α : Type}

theorem knownVersion_eq_some_iff {t : Technology α} {v : Text} :
    t.knownVersion = some v ↔ t.version = some v ∧ v ≠ [] := by
  rw [knownVersion, Option.filter_eq_some_iff]
  simp

variable [Quantity α] {t d : Technology α} {e : Text}

theorem mem_evidence_merge : e ∈ (t.merge d).evidence ↔ e ∈ t.evidence ∨ e ∈ d.evidence := by
  simp only [merge, List.mem_append, List.mem_filter, Bool.not_eq_true', List.contains_eq_mem,
    decide_eq_false_iff_not]
  by_cases he : e ∈ t.evidence
  · simp [he]
  · simp [he]

/-- The evidence of a detection is added to what was seen before it. -/
theorem evidence_merge {seen : List Text} (ht : t.evidence = seen.eraseDups)
    (hd : d.evidence.Nodup) : (t.merge d).evidence = (seen ++ d.evidence).eraseDups := by
  rw [eraseDups_append_of_nodup hd, ← ht]
  rfl

/-- The better of two detections has the first word on the version, and only a version that says
something counts. -/
theorem knownVersion_merge (t d : Technology α) :
    (t.merge d).knownVersion =
      if Quantity.below t.confidence d.confidence then d.knownVersion.or t.knownVersion
      else t.knownVersion.or d.knownVersion := by
  -- of the three versions that are tried only the last one may say nothing
  have hknown (u : Technology α) (v : Option Text) :
      (u.knownVersion.or v).filter (fun v => !v.isEmpty) =
        u.knownVersion.or (v.filter fun v => !v.isEmpty) := by
    cases hu : u.knownVersion with
    | none => rfl
    | some w => simp [(knownVersion_eq_some_iff.1 hu).2]
  have hmerge : (t.merge d).knownVersion =
      ((if Quantity.below t.confidence d.confidence then d else t).knownVersion.or
        t.knownVersion).or d.knownVersion := by
    rw [Option.or_assoc, knownVersion, merge, Option.or_assoc, hknown, hknown]
    rfl
  rw [hmerge]
  split
  · cases d.knownVersion <;> simp
  · rw [Option.or_self]

end Parts

/-! ## The strongest detection -/

section Order

variable {α β : Type} [LinearOrder β] {measure : α → β} {ds : List (Technology α)}
  {c d : Technology α}

/-- Whether the test for being less puts the confidences of some technologies in a total order,
which is that of a measure of them. -/
def ComparedBy [Quantity α] (measure : α → β) (cs : List (Technology α)) : Prop :=
  ∀ c ∈ cs, ∀ d ∈ cs,
    Quantity.below c.confidence d.confidence = decide (measure c.confidence < measure d.confidence)

/-- Exact numbers are in a total order. -/
theorem comparedBy_id (cs : List (Technology Rat)) : ComparedBy id cs := fun _ _ _ _ => rfl

/-- Whether a detection is the first of the strongest: those before it are weaker, and those after
it are not stronger. -/
def FirstStrongest (measure : α → β) (ds : List (Technology α)) (c : Technology α) : Prop :=
  ∃ before after, ds = before ++ c :: after ∧
    (∀ d ∈ before, measure d.confidence < measure c.confidence) ∧
    ∀ d ∈ after, measure d.confidence ≤ measure c.confidence

namespace FirstStrongest

theorem singleton (c : Technology α) : FirstStrongest measure [c] c :=
  ⟨[], [], rfl, by simp, by simp⟩

theorem mem (h : FirstStrongest measure ds c) : c ∈ ds := by
  obtain ⟨before, after, rfl, -, -⟩ := h
  simp

theorem le (h : FirstStrongest measure ds c) (hd : d ∈ ds) :
    measure d.confidence ≤ measure c.confidence := by
  obtain ⟨before, after, rfl, hbefore, hafter⟩ := h
  rcases List.mem_append.1 hd with hd | hd
  · exact (hbefore d hd).le
  · rcases List.mem_cons.1 hd with rfl | hd
    · exact le_rfl
    · exact hafter d hd

/-- A detection that is not stronger changes nothing, -/
theorem concat_of_le (h : FirstStrongest measure ds c)
    (hd : measure d.confidence ≤ measure c.confidence) : FirstStrongest measure (ds ++ [d]) c := by
  obtain ⟨before, after, rfl, hbefore, hafter⟩ := h
  refine ⟨before, after ++ [d], by simp, hbefore, fun x hx => ?_⟩
  rcases List.mem_append.1 hx with hx | hx
  · exact hafter x hx
  · rw [List.mem_singleton.1 hx]
    exact hd

/-- and a stronger one comes to be the first of the strongest. -/
theorem concat_of_lt (h : FirstStrongest measure ds c)
    (hd : measure c.confidence < measure d.confidence) : FirstStrongest measure (ds ++ [d]) d :=
  ⟨ds, [], rfl, fun _ hx => (h.le hx).trans_lt hd, by simp⟩

end FirstStrongest

end Order

/-! ## All detections of one name -/

section Entry

variable {α β : Type} [LinearOrder β] {measure : α → β} {ds : List (Technology α)}
  {c d t : Technology α}

/-- What holds of the entry that the detections of one name are merged into, in their order. -/
structure MergedFrom (measure : α → β) (ds : List (Technology α)) (t : Technology α) : Prop where
  /-- The first of the strongest gives the confidence, and the version if it knows one. -/
  strongest : ∃ c, FirstStrongest measure ds c ∧ t.confidence = c.confidence ∧
    ∀ v, c.knownVersion = some v → t.knownVersion = some v
  mem_evidence : ∀ e, e ∈ t.evidence ↔ ∃ d ∈ ds, e ∈ d.evidence
  evidence_eq : (∀ d ∈ ds, d.evidence.Nodup) → t.evidence = (ds.flatMap evidence).eraseDups
  mem_version : ∀ v, t.knownVersion = some v → ∃ d ∈ ds, d.knownVersion = some v
  version : ∀ d ∈ ds, d.knownVersion.isSome = true → t.knownVersion.isSome = true

theorem MergedFrom.singleton (measure : α → β) (c : Technology α) : MergedFrom measure [c] c where
  strongest := ⟨c, .singleton c, rfl, fun _ h => h⟩
  mem_evidence := by simp
  evidence_eq h := by simpa using (eraseDups_eq_self (h c List.mem_cons_self)).symm
  mem_version := by simp
  version := by simp

variable [Quantity α]

/-- One more detection of the name is merged into the entry. -/
theorem MergedFrom.merge (h : MergedFrom measure ds t) (hds : ComparedBy measure (ds ++ [d])) :
    MergedFrom measure (ds ++ [d]) (t.merge d) := by
  obtain ⟨c, hc, hconf, hversion⟩ := h.strongest
  have hbelow : Quantity.below t.confidence d.confidence =
      decide (measure c.confidence < measure d.confidence) := by
    rw [hconf]
    exact hds c (List.mem_append_left _ hc.mem) d (by simp)
  have hknown := knownVersion_merge t d
  have hconf' : (t.merge d).confidence =
      (if Quantity.below t.confidence d.confidence then d else t).confidence := rfl
  refine ⟨?_, fun e => ?_, fun hnodup => ?_, fun v hv => ?_, fun x hx hxv => ?_⟩
  · -- a stronger detection takes over, so that its version is asked first
    by_cases hlt : measure c.confidence < measure d.confidence
    · rw [hbelow, if_pos (by simpa using hlt)] at hknown hconf'
      refine ⟨d, hc.concat_of_lt hlt, hconf', fun v hv => ?_⟩
      rw [hknown, hv, Option.some_or]
    · rw [hbelow, if_neg (by simpa using hlt)] at hknown hconf'
      refine ⟨c, hc.concat_of_le (not_lt.1 hlt), hconf'.trans hconf, fun v hv => ?_⟩
      rw [hknown, hversion v hv, Option.some_or]
  · rw [mem_evidence_merge, h.mem_evidence]
    simp [or_and_right, exists_or]
  · rw [List.flatMap_append, List.flatMap_singleton]
    exact evidence_merge (h.evidence_eq fun x hx => hnodup x (List.mem_append_left _ hx))
      (hnodup d (by simp))
  · -- whichever is asked first, the version is one of the two
    have heither : t.knownVersion = some v ∨ d.knownVersion = some v := by
      rw [hknown] at hv
      split at hv
      · exact (Option.or_eq_some_iff.1 hv).elim .inr fun h => .inl h.2
      · exact (Option.or_eq_some_iff.1 hv).elim .inl fun h => .inr h.2
    rcases heither with hv | hv
    · obtain ⟨x, hx, hxv⟩ := h.mem_version v hv
      exact ⟨x, List.mem_append_left _ hx, hxv⟩
    · exact ⟨d, by simp, hv⟩
  · have heither : t.knownVersion.isSome = true ∨ d.knownVersion.isSome = true := by
      rcases List.mem_append.1 hx with hx | hx
      · exact .inl (h.version x hx hxv)
      · exact .inr (List.mem_singleton.1 hx ▸ hxv)
    rw [hknown]
    split
    · simpa [or_comm] using heither
    · simpa using heither

theorem ComparedBy.of_subset {cs : List (Technology α)} (h : ComparedBy measure cs)
    (hds : ds ⊆ cs) : ComparedBy measure ds :=
  fun c hc d hd => h c (hds hc) d (hds hd)

/-- All detections of the name are merged into the entry. -/
theorem MergedFrom.foldl_merge {rest : List (Technology α)} (h : MergedFrom measure ds t)
    (hds : ComparedBy measure (ds ++ rest)) :
    MergedFrom measure (ds ++ rest) (rest.foldl Technology.merge t) := by
  induction rest generalizing ds t with
  | nil => simpa using h
  | cons d rest ih =>
      have hsplit : ds ++ d :: rest = (ds ++ [d]) ++ rest := by simp
      rw [hsplit] at hds ⊢
      exact ih (h.merge (hds.of_subset (List.subset_append_left _ _))) hds

end Entry
end Technology

/-! ## All names -/

section Names

variable {α : Type} [Quantity α] {cs : List (Technology α)}

/-- The entries stand in the order in which their names were first detected. -/
theorem names_mergeAll (cs : List (Technology α)) :
    (mergeAll cs).map Technology.name = (cs.map Technology.name).eraseDups := by
  rw [map_name_mergeAll]
  induction cs using List.reverseRecOn with
  | nil => rfl
  | append_singleton cs c ih =>
      rw [List.foldl_append, List.foldl_cons, List.foldl_nil, addDetection_eq_put, Table.names_put,
        ih, List.map_append, List.map_singleton,
        eraseDups_append_of_nodup (by simp)]
      generalize (cs.map Technology.name).eraseDups = firsts
      by_cases hc : c.name ∈ firsts
      · simp [hc]
      · simp [hc]

/-- Merging keeps every name. -/
theorem exists_mem_mergeAll {c : Technology α} (h : c ∈ cs) :
    ∃ t ∈ mergeAll cs, t.name = c.name := by
  have hname : c.name ∈ (mergeAll cs).map Technology.name := by
    rw [names_mergeAll, List.mem_eraseDups]
    exact List.mem_map_of_mem h
  exact List.mem_map.1 hname

/-- An entry is what all detections of its name are merged into. -/
theorem mergedFrom_of_mem_mergeAll {β : Type} [LinearOrder β] {measure : α → β}
    {t : Technology α} (h : Technology.ComparedBy measure cs) (ht : t ∈ mergeAll cs) :
    Technology.MergedFrom measure (cs.filter (t.name == ·.name)) t := by
  obtain ⟨n, hn⟩ := mem_mergeAll.1 ht
  rw [mergedOf?] at hn
  split at hn
  · contradiction
  · rename_i c rest hfilter
    obtain rfl := Option.some.inj hn
    have hc : n = c.name := by
      have hmem : c ∈ cs.filter (n == ·.name) := hfilter ▸ List.mem_cons_self
      simpa using (List.mem_filter.1 hmem).2
    rw [Technology.name_foldl_merge, ← hc, hfilter, ← List.singleton_append]
    refine (Technology.MergedFrom.singleton measure c).foldl_merge ?_
    rw [List.singleton_append, ← hfilter]
    exact h.of_subset List.filter_sublist.subset

/-- Merging gives every name that was detected once, in the order of first detection, and with it
the entry that all detections of the name are merged into. -/
theorem mergeAll_gives_entries {β : Type} [LinearOrder β] {measure : α → β}
    (h : Technology.ComparedBy measure cs) :
    (mergeAll cs).map Technology.name = (cs.map Technology.name).eraseDups ∧
      ∀ t ∈ mergeAll cs, Technology.MergedFrom measure (cs.filter (t.name == ·.name)) t :=
  ⟨names_mergeAll cs, fun _ ht => mergedFrom_of_mem_mergeAll h ht⟩

/-- Two technologies, one of them detected three times: twice as strongly as can be, and only the
last time with a version that says something. -/
def detectedTwice : List (Technology Rat) := [
  ⟨"Express", 7 / 10, ["middleware"], some []⟩,
  ⟨"Vue", 9 / 10, ["package"], some "3.4".toList⟩,
  ⟨"Express", 9 / 10, ["package"], none⟩,
  ⟨"Express", 9 / 10, ["package", "routes"], some "4.18".toList⟩]

/-- The strongest detection knows no version, so that a later one gives it. -/
theorem entries_of_detectedTwice :
    Technology.ComparedBy id detectedTwice ∧
      (mergeAll detectedTwice).map Technology.name = ["Express".toList, "Vue".toList] ∧
      (mergeAll detectedTwice).map Technology.version =
        [some "4.18".toList, some "3.4".toList] ∧
      ∀ t ∈ mergeAll detectedTwice,
        Technology.MergedFrom id (detectedTwice.filter (t.name == ·.name)) t := by
  have h := Technology.comparedBy_id detectedTwice
  obtain ⟨hnames, hentries⟩ := mergeAll_gives_entries h
  exact ⟨h, hnames.trans (by decide +kernel), by decide +kernel, hentries⟩

end Names
end CodeSurvey
