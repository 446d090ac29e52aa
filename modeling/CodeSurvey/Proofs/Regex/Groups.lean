import CodeSurvey.Proofs.Regex.Leads

/-!
# What groups hold

A group holds a text that its inner expression can pass. So the inner expressions alone tell which
characters stand in the groups of a match and which groups hold anything, whatever stands around
them. All of this is computed from the expression, without a text.

## Main definitions

* `Regex.avoids c r`, `Regex.consumes r`: whether `r` passes no `c`, and whether it passes anything.
* `Regex.groups r`: the groups of `r` with their inner expressions.
* `Regex.binds n r`: whether every way through `r` passes a group with the number `n`.
-/

namespace CodeSurvey
namespace Regex

/-! ## Computed from expressions -/

/-- Whether no character that the expression accepts is the given one. -/
def avoids (c : Char) : Regex → Bool
  | .char accepts | .run _ accepts => !accepts c
  | .seq first second | .choice first second => first.avoids c && second.avoids c
  | .group _ inner => inner.avoids c
  | _ => true

/-- Whether the expression passes at least one character. -/
def consumes : Regex → Bool
  | .char _ => true
  | .seq first second => first.consumes || second.consumes
  | .choice first second => first.consumes && second.consumes
  | .group _ inner => inner.consumes
  | _ => false

/-- The groups of an expression, each with its number and what it is about. -/
def groups : Regex → List (Nat × Regex)
  | .seq first second | .choice first second => first.groups ++ second.groups
  | .group number inner => (number, inner) :: inner.groups
  | _ => []

/-- Whether every way through the expression passes a group with the given number. -/
def binds (n : Nat) : Regex → Bool
  | .seq first second => first.binds n || second.binds n
  | .choice first second => first.binds n && second.binds n
  | .group number inner => number == n || inner.binds n
  | _ => false

/-! ## Ways through an expression -/

variable {r : Regex} {s e : Spot} {w : Text} {c : Char} {n : Nat}

/-- A way through an expression passes a text without the characters that the expression avoids, and
with a character if the expression consumes one. -/
theorem Leads.exists_passes (h : r.Leads s e) :
    ∃ w, s.Passes w e ∧ (∀ c, r.avoids c = true → c ∉ w) ∧ (r.consumes = true → w ≠ []) := by
  induction h with
  | empty | textStart | lineStart | textEnd | wordEdge =>
      exact ⟨[], .refl _, by simp, by simp [consumes]⟩
  | @char accepts s c rest hrest hc =>
      refine ⟨[c], ⟨hrest, rfl⟩, fun x hx hmem => ?_, by simp⟩
      obtain rfl := List.mem_singleton.1 hmem
      simp [avoids, hc] at hx
  | run hstop =>
      rcases Spot.exists_passes_of_mem_stops hstop with hnil | ⟨w, hpasses, hw, -⟩
      · simp at hnil
      · refine ⟨w, hpasses, fun x hx hmem => ?_, by simp [consumes]⟩
        simp [avoids, hw x hmem] at hx
  | seq _ _ ih₁ ih₂ =>
      obtain ⟨w₁, hpasses₁, havoids₁, hconsumes₁⟩ := ih₁
      obtain ⟨w₂, hpasses₂, havoids₂, hconsumes₂⟩ := ih₂
      refine ⟨w₁ ++ w₂, hpasses₁.trans hpasses₂, fun x hx hmem => ?_, fun hconsumes hnil => ?_⟩
      · rw [avoids, Bool.and_eq_true] at hx
        rcases List.mem_append.1 hmem with hmem | hmem
        · exact havoids₁ x hx.1 hmem
        · exact havoids₂ x hx.2 hmem
      · rw [consumes, Bool.or_eq_true] at hconsumes
        obtain ⟨hnil₁, hnil₂⟩ := List.append_eq_nil_iff.1 hnil
        rcases hconsumes with h | h
        · exact hconsumes₁ h hnil₁
        · exact hconsumes₂ h hnil₂
  | first _ ih =>
      obtain ⟨w, hpasses, havoids, hconsumes⟩ := ih
      refine ⟨w, hpasses, fun x hx => ?_, fun h => ?_⟩
      · rw [avoids, Bool.and_eq_true] at hx
        exact havoids x hx.1
      · rw [consumes, Bool.and_eq_true] at h
        exact hconsumes h.1
  | second _ ih =>
      obtain ⟨w, hpasses, havoids, hconsumes⟩ := ih
      refine ⟨w, hpasses, fun x hx => ?_, fun h => ?_⟩
      · rw [avoids, Bool.and_eq_true] at hx
        exact havoids x hx.2
      · rw [consumes, Bool.and_eq_true] at h
        exact hconsumes h.2
  | group _ ih =>
      obtain ⟨w, hpasses, havoids, hconsumes⟩ := ih
      exact ⟨w, ⟨hpasses.rest_eq, hpasses.offset_eq⟩, havoids, hconsumes⟩

/-- Whether the expression has a way that passes the text. -/
def Spells (r : Regex) (w : Text) : Prop := ∃ s e, r.Leads s e ∧ s.Passes w e

theorem Spells.not_mem (h : r.Spells w) (hr : r.avoids c = true) : c ∉ w := by
  obtain ⟨s, e, hleads, hpasses⟩ := h
  obtain ⟨w', hpasses', havoids, -⟩ := hleads.exists_passes
  rw [← hpasses.text_eq, hpasses'.text_eq]
  exact havoids c hr

theorem Spells.ne_nil (h : r.Spells w) (hr : r.consumes = true) : w ≠ [] := by
  obtain ⟨s, e, hleads, hpasses⟩ := h
  obtain ⟨w', hpasses', -, hconsumes⟩ := hleads.exists_passes
  rw [← hpasses.text_eq, hpasses'.text_eq]
  exact hconsumes hr

/-! ## Captures -/

/-- What was captured on the way is one of the groups of the expression, and spelled by it. -/
theorem Leads.exists_group {g : Capture} (h : r.Leads s e) (hg : g ∈ e.captures) :
    g ∈ s.captures ∨ ∃ inner, (g.number, inner) ∈ r.groups ∧ inner.Spells g.text := by
  induction h with
  | empty | char | textStart | lineStart | textEnd | wordEdge => exact .inl hg
  | run hstop =>
      rcases Spot.exists_passes_of_mem_stops hstop with hnil | ⟨w, -, -, hcaptures⟩
      · simp at hnil
      · exact .inl (hcaptures ▸ hg)
  | seq _ _ ih₁ ih₂ =>
      rcases ih₂ hg with hg | ⟨inner, hmem, hspells⟩
      · rcases ih₁ hg with hg | ⟨inner, hmem, hspells⟩
        · exact .inl hg
        · exact .inr ⟨inner, List.mem_append_left _ hmem, hspells⟩
      · exact .inr ⟨inner, List.mem_append_right _ hmem, hspells⟩
  | first _ ih =>
      rcases ih hg with hg | ⟨inner, hmem, hspells⟩
      · exact .inl hg
      · exact .inr ⟨inner, List.mem_append_left _ hmem, hspells⟩
  | second _ ih =>
      rcases ih hg with hg | ⟨inner, hmem, hspells⟩
      · exact .inl hg
      · exact .inr ⟨inner, List.mem_append_right _ hmem, hspells⟩
  | @group number inner s e hleads ih =>
      rcases List.mem_cons.1 hg with rfl | hg
      · obtain ⟨w, hpasses, -⟩ := hleads.exists_passes
        refine .inr ⟨inner, List.mem_cons_self, s, e, hleads, ?_⟩
        rw [hpasses.text_eq]
        exact hpasses
      · rcases ih hg with hg | ⟨inner', hmem, hspells⟩
        · exact .inl hg
        · exact .inr ⟨inner', List.mem_cons_of_mem _ hmem, hspells⟩

/-- Nothing that was captured is lost on the way. -/
theorem Leads.captures_subset (h : r.Leads s e) : s.captures ⊆ e.captures := by
  induction h with
  | empty | char | textStart | lineStart | textEnd | wordEdge => exact List.Subset.refl _
  | run hstop =>
      rcases Spot.exists_passes_of_mem_stops hstop with hnil | ⟨w, -, -, hcaptures⟩
      · simp at hnil
      · rw [hcaptures]
        exact List.Subset.refl _
  | seq _ _ ih₁ ih₂ => exact List.Subset.trans ih₁ ih₂
  | first _ ih | second _ ih => exact ih
  | group _ ih => exact List.subset_cons_of_subset _ ih

/-- A group that every way passes is captured. -/
theorem Leads.exists_capture (h : r.Leads s e) (hr : r.binds n = true) :
    ∃ g ∈ e.captures, g.number = n := by
  induction h with
  | empty | char | run | textStart | lineStart | textEnd | wordEdge => simp [binds] at hr
  | seq _ hleads ih₁ ih₂ =>
      rw [binds, Bool.or_eq_true] at hr
      rcases hr with hr | hr
      · obtain ⟨g, hg, hnumber⟩ := ih₁ hr
        exact ⟨g, hleads.captures_subset hg, hnumber⟩
      · exact ih₂ hr
  | first _ ih =>
      rw [binds, Bool.and_eq_true] at hr
      exact ih hr.1
  | second _ ih =>
      rw [binds, Bool.and_eq_true] at hr
      exact ih hr.2
  | group _ ih =>
      rw [binds, Bool.or_eq_true, beq_iff_eq] at hr
      rcases hr with rfl | hr
      · exact ⟨_, List.mem_cons_self, rfl⟩
      · obtain ⟨g, hg, hnumber⟩ := ih hr
        exact ⟨g, List.mem_cons_of_mem _ hg, hnumber⟩

/-! ## Groups of matches -/

namespace Finds

variable {t : Text} {m : Match} {g : Capture}

theorem exists_group (h : r.Finds t m) (hg : m.group? n = some g) :
    ∃ inner, (n, inner) ∈ r.groups ∧ inner.Spells g.text := by
  obtain ⟨s, e, hleads, ⟨-, -, hnil⟩, rfl⟩ := h.exists_leads
  have hmem : g ∈ e.captures := List.mem_of_find?_eq_some hg
  have hnumber : g.number = n := by simpa using List.find?_some hg
  rcases hleads.exists_group hmem with hmem | hgroup
  · simp [hnil] at hmem
  · rwa [hnumber] at hgroup

/-- The text of a group has no character that its inner expression avoids. -/
theorem not_mem_groupText (h : r.Finds t m) (hr : ∀ x ∈ r.groups, x.2.avoids c = true) (n : Nat) :
    c ∉ m.groupText n := by
  rw [Match.groupText]
  cases hg : m.group? n with
  | none => simp
  | some g =>
      obtain ⟨inner, hmem, hspells⟩ := h.exists_group hg
      exact hspells.not_mem (hr _ hmem)

/-- A group that every way passes is in every match. -/
theorem exists_group_of_binds (h : r.Finds t m) (hr : r.binds n = true) :
    ∃ g, m.group? n = some g := by
  obtain ⟨s, e, hleads, -, rfl⟩ := h.exists_leads
  obtain ⟨g, hg, hnumber⟩ := hleads.exists_capture hr
  rw [← Option.isSome_iff_exists, Match.group?, List.find?_isSome]
  exact ⟨g, hg, by simpa using hnumber⟩

/-- Such a group holds a text if its inner expression consumes a character. -/
theorem groupText_ne_nil (h : r.Finds t m) (hbinds : r.binds n = true)
    (hr : ∀ x ∈ r.groups, x.2.consumes = true) : m.groupText n ≠ [] := by
  obtain ⟨g, hg⟩ := h.exists_group_of_binds hbinds
  obtain ⟨inner, hmem, hspells⟩ := h.exists_group hg
  rw [Match.groupText, hg]
  exact hspells.ne_nil (hr _ hmem)

end Finds
end Regex
end CodeSurvey
