import CodeSurvey.Proofs.Regex.Leads

/-!
# Places of matches

Matching passes places of one text only: what is left at a place is what follows its offset, and
what a group holds stands where the group says. So a match that a search finds lies in the text, at
the offsets it names, whatever the expression.
-/

namespace CodeSurvey
namespace Regex

variable {t : Text}

/-- A place of the text `t`: what is left is what follows the offset, and every group stands where
it says. -/
structure Spot.InText (t : Text) (s : Spot) : Prop where
  offset_le : s.offset ≤ t.length
  rest_eq : s.rest = t.drop s.offset
  captures : ∀ g ∈ s.captures, g.text <+: t.drop g.start

/-- A match in the text `t`: it lies between its offsets, and every group stands where it says. -/
structure Match.InText (t : Text) (m : Match) : Prop where
  start_le : m.start ≤ m.stop
  stop_le : m.stop ≤ t.length
  text_eq : m.text = (t.drop m.start).take (m.stop - m.start)
  captures : ∀ g ∈ m.captures, g.text <+: t.drop g.start

theorem Match.InText.prefix_text {m : Match} (h : m.InText t) : m.text <+: t.drop m.start := by
  rw [h.text_eq]
  exact List.take_prefix _ _

theorem Match.InText.prefix_group {m : Match} (h : m.InText t) {n : Nat} {g : Capture}
    (hg : m.group? n = some g) : g.text <+: t.drop g.start :=
  h.captures g (List.mem_of_find?_eq_some hg)

/-! ## One place -/

/-- What lies behind a passed text is a later place of the text. -/
theorem Spot.InText.of_passes {s e : Spot} {w : Text} (hs : s.InText t) (h : s.Passes w e)
    (hcaptures : e.captures = s.captures) : e.InText t ∧ s.offset ≤ e.offset := by
  have hdrop : w ++ e.rest = t.drop s.offset := h.rest_eq ▸ hs.rest_eq
  have hlength := congrArg List.length hdrop
  rw [List.length_append, List.length_drop] at hlength
  have hle := hs.offset_le
  have hoffset := h.offset_eq
  refine ⟨⟨by omega, ?_, hcaptures ▸ hs.captures⟩, by omega⟩
  rw [hoffset, ← List.drop_drop, ← hdrop, List.drop_left]

/-- A group that holds what lies between two places of the text stands where it says. -/
theorem Spot.InText.capture {s e : Spot} (hs : s.InText t) (he : e.InText t) (number : Nat) :
    (Spot.capture number s e).InText t := by
  refine ⟨he.offset_le, he.rest_eq, ?_⟩
  intro g hg
  rcases List.mem_cons.1 hg with rfl | hg
  · rw [hs.rest_eq]
    exact List.take_prefix _ _
  · exact he.captures g hg

/-- An expression leads to later places of the text only. -/
theorem Leads.inText {r : Regex} {s e : Spot} (h : r.Leads s e) (hs : s.InText t) :
    e.InText t ∧ s.offset ≤ e.offset := by
  induction h with
  | empty | textStart | lineStart | textEnd | wordEdge => exact ⟨hs, Nat.le_refl _⟩
  | @char accepts s c rest hrest _ =>
      have hpasses : s.Passes [c] ⟨s.offset + 1, some c, rest, s.captures⟩ := ⟨hrest, rfl⟩
      exact hs.of_passes hpasses rfl
  | run hstop =>
      rcases Spot.exists_passes_of_mem_stops hstop with hnil | ⟨w, hpasses, -, hcaptures⟩
      · simp at hnil
      · exact hs.of_passes hpasses hcaptures
  | seq _ _ ih₁ ih₂ =>
      obtain ⟨hm, hle₁⟩ := ih₁ hs
      obtain ⟨he, hle₂⟩ := ih₂ hm
      exact ⟨he, Nat.le_trans hle₁ hle₂⟩
  | first _ ih | second _ ih => exact ih hs
  | @group number _ _ _ _ ih =>
      obtain ⟨he, hle⟩ := ih hs
      exact ⟨hs.capture he number, hle⟩

/-! ## A whole text -/

/-- A match that is found lies in the text. -/
theorem Finds.inText {r : Regex} {m : Match} (h : r.Finds t m) : m.InText t := by
  obtain ⟨s, e, hleads, ⟨hle, hrest, hnil⟩, rfl⟩ := h.exists_leads
  obtain ⟨he, hoffset⟩ := hleads.inText ⟨hle, hrest, by simp [hnil]⟩
  exact ⟨hoffset, he.offset_le, by rw [hrest], he.captures⟩

/-- The leftmost match lies in the text. -/
theorem inText_of_find? {r : Regex} {m : Match} (h : r.find? t = some m) : m.InText t :=
  (finds_of_find? h).inText

/-- All matches lie in the text. -/
theorem inText_of_mem_findAll {r : Regex} {m : Match} (h : m ∈ r.findAll t) : m.InText t :=
  (finds_of_mem_findAll h).inText

end Regex
end CodeSurvey
