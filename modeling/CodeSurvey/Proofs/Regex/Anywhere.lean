import CodeSurvey.Proofs.Regex.Groups
import CodeSurvey.Proofs.Regex.Replace

/-!
# Expressions that match anywhere

Trying one way after the other misses none: where an expression leads on, it is followed. And an
expression without anchors never looks at what is around the text that it passes. So such an
expression matches in a text exactly if some text that it spells is a contiguous part of it.

## Main definitions

* `Regex.isLoose r`: whether the expression has no anchors.
-/

namespace CodeSurvey
namespace Regex

variable {r : Regex} {s e : Spot} {t w : Text}

/-! ## Completeness -/

/-- A success of what comes after an expression, at a place it leads to, is found or another one
before it. -/
theorem isSome_follow_of_leads {α : Type} (h : r.Leads s e) {next : Spot → Option α}
    (he : (next e).isSome = true) : (follow r s next).isSome = true := by
  induction h generalizing next with
  | empty => exact he
  | char hrest hc => simpa [follow, hrest, hc] using he
  | @run greedy _ _ _ hstop =>
      rw [follow, List.findSome?_isSome_iff]
      refine ⟨_, ?_, he⟩
      cases greedy <;> simpa using hstop
  | seq _ _ ih₁ ih₂ => exact ih₁ (ih₂ he)
  | first _ ih =>
      obtain ⟨a, ha⟩ := Option.isSome_iff_exists.1 (ih he)
      simp [follow, ha]
  | second _ ih =>
      rw [follow]
      split
      · rfl
      · exact ih he
  | group _ ih => exact ih he
  | textStart h | lineStart h | textEnd h | wordEdge h => rwa [follow, if_pos h]

/-- A search tries all places of a text. -/
theorem isSome_findFrom_iff {offset : Nat} {previous : Option Char} :
    (findFrom r offset previous t).isSome = true ↔ ∃ before after, t = before ++ after ∧
      (matchAt r (offset + before.length) (before.getLast?.or previous) after).isSome = true := by
  induction t generalizing offset previous with
  | nil =>
      rw [findFrom]
      constructor
      · exact fun h => ⟨[], [], rfl, h⟩
      · rintro ⟨before, after, h, hmatch⟩
        obtain ⟨rfl, rfl⟩ := List.append_eq_nil_iff.1 h.symm
        exact hmatch
  | cons c t ih =>
      rw [findFrom]
      constructor
      · intro h
        split at h
        · rename_i m hm
          exact ⟨[], c :: t, rfl, by simp [hm]⟩
        · obtain ⟨before, after, rfl, hmatch⟩ := ih.1 h
          refine ⟨c :: before, after, rfl, ?_⟩
          rwa [getLast?_cons_or, List.length_cons, Nat.add_comm before.length, ← Nat.add_assoc]
      · rintro ⟨before, after, h, hmatch⟩
        split
        · rfl
        · rename_i hnone
          cases before with
          | nil =>
              obtain rfl : c :: t = after := h
              simp [hnone] at hmatch
          | cons d before =>
              obtain ⟨rfl, rfl⟩ := List.cons.inj h
              refine ih.2 ⟨before, after, rfl, ?_⟩
              rwa [getLast?_cons_or, List.length_cons, Nat.add_comm before.length,
                ← Nat.add_assoc] at hmatch

/-- An expression occurs in a text if it leads on from some place of it. -/
theorem occursIn_iff_leads : r.occursIn t = true ↔ ∃ before after, t = before ++ after ∧
    ∃ e, r.Leads ⟨before.length, before.getLast?, after, []⟩ e := by
  simp only [occursIn, find?, isSome_findFrom_iff, Nat.zero_add, Option.or_none]
  refine exists_congr fun before => exists_congr fun after => and_congr_right fun _ => ?_
  constructor
  · intro h
    obtain ⟨m, hm⟩ := Option.isSome_iff_exists.1 h
    obtain ⟨e, he, -⟩ := exists_leads_of_follow hm
    exact ⟨e, he⟩
  · rintro ⟨e, he⟩
    exact isSome_follow_of_leads he rfl

/-! ## Expressions without anchors -/

/-- Whether the expression looks at nothing but the characters it passes. -/
def isLoose : Regex → Bool
  | .textStart | .lineStart | .textEnd | .wordEdge => false
  | .seq first second | .choice first second => first.isLoose && second.isLoose
  | .group _ inner => inner.isLoose
  | _ => true

/-- A run may end where it begins. -/
theorem mem_stops_self (accepts : Char → Bool) (captures : List Capture) (nearer : List Spot)
    (offset : Nat) (previous : Option Char) (t : Text) :
    ⟨offset, previous, t, captures⟩ ∈ Spot.stops accepts captures nearer offset previous t := by
  cases t with
  | nil => exact List.mem_cons_self
  | cons c t =>
      rw [Spot.stops]
      split
      · rw [stops_eq_append]
        exact List.mem_append_right _ List.mem_cons_self
      · exact List.mem_cons_self

/-- A run goes over accepted characters wherever they are. -/
theorem exists_mem_stops {accepts : Char → Bool} (hw : ∀ c ∈ w, accepts c = true) {rest : Text}
    (hs : s.rest = w ++ rest) (nearer : List Spot) :
    ∃ e ∈ Spot.stops accepts s.captures nearer s.offset s.previous s.rest, s.Passes w e := by
  obtain ⟨offset, previous, _, captures⟩ := s
  obtain rfl : _ = w ++ rest := hs
  induction w generalizing offset previous nearer with
  | nil =>
      exact ⟨_, mem_stops_self accepts captures nearer offset previous rest, .refl _⟩
  | cons c w ih =>
      obtain ⟨e, he, hpasses⟩ := ih (fun d hd => hw d (List.mem_cons_of_mem _ hd))
        (⟨offset, previous, c :: (w ++ rest), captures⟩ :: nearer) (offset + 1) (some c)
      have hone : Spot.Passes ⟨offset, previous, c :: (w ++ rest), captures⟩ [c]
          ⟨offset + 1, some c, w ++ rest, captures⟩ := ⟨rfl, rfl⟩
      refine ⟨e, ?_, hone.trans hpasses⟩
      rw [List.cons_append, Spot.stops, if_pos (hw c List.mem_cons_self)]
      exact he

/-- A way through an expression without anchors is there wherever the same text follows. -/
theorem Leads.elsewhere (h : r.Leads s e) (hr : r.isLoose = true) (hw : s.Passes w e) {s' : Spot}
    {rest : Text} (hs' : s'.rest = w ++ rest) : ∃ e', r.Leads s' e' ∧ s'.Passes w e' := by
  induction h generalizing w s' rest with
  | @empty s =>
      obtain rfl : [] = w := (Spot.Passes.refl s).text_eq.symm.trans hw.text_eq
      exact ⟨s', .empty, .refl s'⟩
  | @char accepts s c after hrest hc =>
      have hone : s.Passes [c] ⟨s.offset + 1, some c, after, s.captures⟩ := ⟨hrest, rfl⟩
      obtain rfl : [c] = w := hone.text_eq.symm.trans hw.text_eq
      exact ⟨_, .char hs' hc, hs', rfl⟩
  | run hstop =>
      rcases Spot.exists_passes_of_mem_stops hstop with hnil | ⟨w', hpasses, haccepts, -⟩
      · simp at hnil
      · obtain rfl : w' = w := hpasses.text_eq.symm.trans hw.text_eq
        obtain ⟨e', he', hpasses'⟩ := exists_mem_stops haccepts hs' []
        exact ⟨e', .run he', hpasses'⟩
  | @seq first second s m e before after ih₁ ih₂ =>
      rw [isLoose, Bool.and_eq_true] at hr
      obtain ⟨w₁, hpasses₁, -⟩ := before.exists_passes
      obtain ⟨w₂, hpasses₂, -⟩ := after.exists_passes
      obtain rfl : w₁ ++ w₂ = w := (hpasses₁.trans hpasses₂).text_eq.symm.trans hw.text_eq
      rw [List.append_assoc] at hs'
      obtain ⟨m', hm', hpasses₁'⟩ := ih₁ hr.1 hpasses₁ hs'
      have hm'rest : m'.rest = w₂ ++ rest :=
        List.append_cancel_left (hpasses₁'.rest_eq.symm.trans hs')
      obtain ⟨e', he', hpasses₂'⟩ := ih₂ hr.2 hpasses₂ hm'rest
      exact ⟨e', .seq hm' he', hpasses₁'.trans hpasses₂'⟩
  | first _ ih =>
      rw [isLoose, Bool.and_eq_true] at hr
      obtain ⟨e', he', hpasses⟩ := ih hr.1 hw hs'
      exact ⟨e', .first he', hpasses⟩
  | second _ ih =>
      rw [isLoose, Bool.and_eq_true] at hr
      obtain ⟨e', he', hpasses⟩ := ih hr.2 hw hs'
      exact ⟨e', .second he', hpasses⟩
  | group _ ih =>
      obtain ⟨e', he', hpasses⟩ := ih hr ⟨hw.rest_eq, hw.offset_eq⟩ hs'
      exact ⟨_, .group he', hpasses.rest_eq, hpasses.offset_eq⟩
  | textStart | lineStart | textEnd | wordEdge => exact absurd hr Bool.false_ne_true

/-- An expression without anchors occurs in a text if some part of the text is spelled by it. -/
theorem occursIn_iff_spells (hr : r.isLoose = true) :
    r.occursIn t = true ↔ ∃ w, r.Spells w ∧ w <:+: t := by
  rw [occursIn_iff_leads]
  constructor
  · rintro ⟨before, after, rfl, e, he⟩
    obtain ⟨w, hw, -⟩ := he.exists_passes
    have hafter : after = w ++ e.rest := hw.rest_eq
    exact ⟨w, ⟨_, e, he, hw⟩, before, e.rest, by simp [hafter]⟩
  · rintro ⟨w, ⟨s, e, he, hw⟩, before, after, rfl⟩
    have hrest : (Spot.mk before.length before.getLast? (w ++ after) []).rest = w ++ after := rfl
    obtain ⟨e', he', -⟩ := he.elsewhere hr hw hrest
    exact ⟨before, w ++ after, by simp, e', he'⟩

/-- What occurs in a part of a text occurs in the text. -/
theorem occursIn_of_infix (hr : r.isLoose = true) {t' : Text} (ht : t <:+: t')
    (h : r.occursIn t = true) : r.occursIn t' = true := by
  obtain ⟨w, hw, hinfix⟩ := (occursIn_iff_spells hr).1 h
  exact (occursIn_iff_spells hr).2 ⟨w, hw, hinfix.trans ht⟩

end Regex
end CodeSurvey
