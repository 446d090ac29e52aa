import CodeSurvey.Proofs.Regex.Anywhere
import CodeSurvey.Proofs.Regex.Words

/-!
# The leftmost match

A search tries the places of a text one after the other, so that no place before the first match
leads anywhere. A spelling leads behind itself, and a run behind any number of accepted characters:
the place that is reached tells nothing of where the way began but how far it went.

## Main definitions

* `Spot.between before after`: the place between two parts of a text.
-/

namespace CodeSurvey
namespace Regex

variable {r : Regex} {s e : Spot} {t w w' : Text}

/-! ## Places reached -/

namespace Spot

/-- The place between two parts of a text, before any group has been passed. -/
def between (before after : Text) : Spot := ⟨before.length, before.getLast?, after, []⟩

theorem skip_append (s : Spot) (w w' : Text) : s.skip (w ++ w') = (s.skip w).skip w' := by
  simp only [skip, List.length_append, Nat.add_assoc, List.getLast?_append, Option.or_assoc,
    List.drop_drop]

/-- Two texts come one after the other if the second one comes behind the first. -/
theorem append_prefix_rest_iff {s : Spot} :
    w ++ w' <+: s.rest ↔ w <+: s.rest ∧ w' <+: (s.skip w).rest := by
  constructor
  · rintro ⟨x, hx⟩
    refine ⟨⟨w' ++ x, by rw [← List.append_assoc, hx]⟩, ⟨x, ?_⟩⟩
    rw [skip, ← hx, List.append_assoc, List.drop_left]
  · rintro ⟨⟨x, hx⟩, hw'⟩
    rw [skip, ← hx, List.drop_left] at hw'
    rw [← hx]
    exact (List.prefix_append_right_inj w).2 hw'

/-- A place does not tell which of the characters before it have been skipped. -/
theorem skip_between (before w after : Text) :
    (between before (w ++ after)).skip w = between (before ++ w) after := by
  simp [skip, between, List.getLast?_append]

/-- A run stops behind accepted characters. -/
theorem mem_stops_iff {accepts : Char → Bool} :
    e ∈ stops accepts s.captures [] s.offset s.previous s.rest ↔
      ∃ w, w <+: s.rest ∧ (∀ c ∈ w, accepts c = true) ∧ e = s.skip w := by
  obtain ⟨offset, previous, rest, captures⟩ := s
  induction rest generalizing offset previous with
  | nil => simp [stops, skip]
  | cons c rest ih =>
      have hnone : skip ⟨offset, previous, c :: rest, captures⟩ [] =
          ⟨offset, previous, c :: rest, captures⟩ := rfl
      simp only [stops]
      split
      · rename_i hc
        rw [stops_eq_append, List.mem_append, List.mem_singleton, ih]
        constructor
        · rintro (⟨w, hw, haccepts, rfl⟩ | rfl)
          · refine ⟨c :: w, List.cons_prefix_cons.2 ⟨rfl, hw⟩, ?_, (skip_cons ..).symm⟩
            simpa [hc] using haccepts
          · exact ⟨[], List.nil_prefix, by simp, rfl⟩
        · rintro ⟨w, hw, haccepts, rfl⟩
          cases w with
          | nil => exact .inr rfl
          | cons d w =>
              obtain ⟨rfl, hw'⟩ := List.cons_prefix_cons.1 hw
              exact .inl ⟨w, hw', fun x hx => haccepts x (List.mem_cons_of_mem _ hx), skip_cons ..⟩
      · rename_i hc
        rw [List.mem_singleton]
        constructor
        · rintro rfl
          exact ⟨[], List.nil_prefix, by simp, rfl⟩
        · rintro ⟨w, hw, haccepts, rfl⟩
          cases w with
          | nil => rfl
          | cons d w =>
              obtain ⟨rfl, -⟩ := List.cons_prefix_cons.1 hw
              exact absurd (haccepts d List.mem_cons_self) hc

end Spot

/-! ## Ways of simple expressions -/

theorem leads_run_iff {greedy : Bool} {accepts : Char → Bool} :
    (run greedy accepts).Leads s e ↔
      ∃ w, w <+: s.rest ∧ (∀ c ∈ w, accepts c = true) ∧ e = s.skip w := by
  rw [← Spot.mem_stops_iff]
  constructor
  · intro h
    cases h with
    | run hstop => exact hstop
  · exact .run

theorem leads_seq_iff {first second : Regex} :
    (first ++ second).Leads s e ↔ ∃ m, first.Leads s m ∧ second.Leads m e := by
  constructor
  · intro h
    cases h with
    | seq before after => exact ⟨_, before, after⟩
  · rintro ⟨m, before, after⟩
    exact .seq before after

theorem leads_lineStart_iff :
    lineStart.Leads s e ↔ s.previous.all (· == '\n') = true ∧ e = s := by
  constructor
  · intro h
    cases h with
    | lineStart h => exact ⟨h, rfl⟩
  · rintro ⟨h, rfl⟩
    exact .lineStart h

/-- A spelling leads behind itself, if the text goes on with it. -/
theorem leads_literal_iff {spelling : String} :
    (literal spelling).Leads s e ↔ spelling.toList <+: s.rest ∧ e = s.skip spelling.toList := by
  rw [literal]
  induction spelling.toList generalizing s with
  | nil =>
      constructor
      · intro h
        cases h with
        | empty => simp [Spot.skip]
      · rintro ⟨-, rfl⟩
        simpa [Spot.skip] using Leads.empty
  | cons c w ih =>
      obtain ⟨offset, previous, rest, captures⟩ := s
      rw [List.foldr_cons, leads_seq_iff]
      constructor
      · rintro ⟨m, hc, hw⟩
        cases hc with
        | @char _ _ d after hrest hd =>
            obtain rfl : d = c := by simpa using hd
            obtain rfl : rest = d :: after := hrest
            obtain ⟨hbegins, rfl⟩ := ih.1 hw
            exact ⟨List.cons_prefix_cons.2 ⟨rfl, hbegins⟩, (Spot.skip_cons ..).symm⟩
      · rintro ⟨hbegins, rfl⟩
        cases rest with
        | nil => simp at hbegins
        | cons d after =>
            obtain ⟨rfl, hbegins'⟩ := List.cons_prefix_cons.1 hbegins
            exact ⟨_, .char rfl (by simp), ih.2 ⟨hbegins', Spot.skip_cons ..⟩⟩

/-! ## The first match -/

/-- The match that is found is the one at its place, and there is none at the places before. -/
theorem findFrom_eq_some {offset : Nat} {previous : Option Char} {m : Match}
    (h : findFrom r offset previous t = some m) :
    ∃ before after, t = before ++ after ∧
      matchAt r (offset + before.length) (before.getLast?.or previous) after = some m ∧
      ∀ before' after', t = before' ++ after' → before'.length < before.length →
        matchAt r (offset + before'.length) (before'.getLast?.or previous) after' = none := by
  induction t generalizing offset previous with
  | nil => exact ⟨[], [], rfl, h, by simp⟩
  | cons c t ih =>
      rw [findFrom] at h
      split at h
      · rename_i hmatch
        exact ⟨[], c :: t, rfl, hmatch.trans h, by simp⟩
      · rename_i hnone
        obtain ⟨before, after, rfl, hmatch, hbefore⟩ := ih h
        refine ⟨c :: before, after, rfl, ?_, fun before' after' hsplit hlt => ?_⟩
        · rwa [getLast?_cons_or, List.length_cons, Nat.add_comm before.length, ← Nat.add_assoc]
        · cases before' with
          | nil =>
              obtain rfl : _ = after' := hsplit
              exact hnone
          | cons d before' =>
              obtain ⟨rfl, hsplit'⟩ := List.cons.inj hsplit
              have hnone' := hbefore before' after' hsplit' (by simpa using hlt)
              rwa [getLast?_cons_or, List.length_cons, Nat.add_comm before'.length,
                ← Nat.add_assoc]

/-- The first match begins where the expression leads on, and at no place before it does it. -/
theorem exists_leads_of_find? {m : Match} (h : r.find? t = some m) :
    ∃ before after e, t = before ++ after ∧ r.Leads (.between before after) e ∧
      m = ⟨before.length, e.offset, after.take (e.offset - before.length), e.captures⟩ ∧
      ∀ before' after', t = before' ++ after' → before'.length < before.length →
        ∀ e', ¬r.Leads (.between before' after') e' := by
  obtain ⟨before, after, hsplit, hmatch, hbefore⟩ := findFrom_eq_some h
  simp only [Nat.zero_add, Option.or_none] at hmatch hbefore
  obtain ⟨e, he, hm⟩ := exists_leads_of_follow hmatch
  refine ⟨before, after, e, hsplit, he, (Option.some.inj hm).symm, ?_⟩
  intro before' after' hsplit' hlt e' he'
  have hnone := hbefore before' after' hsplit' hlt
  have hsome : (matchAt r before'.length before'.getLast? after').isSome = true :=
    isSome_follow_of_leads he' rfl
  simp [hnone] at hsome

end Regex
end CodeSurvey
