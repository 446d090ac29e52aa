import CodeSurvey.Regex.Match

/-!
# Where an expression leads

Matching tries places in an order of preference and looks ahead to what comes after. What it finds,
though, is told without order and without looking ahead: the expression leads from one place to
another, passing the text between them, by one rule for each kind of expression. A success of the
matcher is one of these ways, so that what holds of all of them holds of every match.

## Main definitions

* `Regex.Leads r s e`: the expression `r` can lead from the place `s` to the place `e`.
* `Spot.Passes s w e`: the text `w` lies between two places.
* `Regex.Finds r t m`: the match `m` is the one at some place of the text `t`.
-/

namespace CodeSurvey
namespace Regex

/-- The ways an expression can go from one place to another. -/
inductive Leads : Regex → Spot → Spot → Prop
  | empty {s : Spot} : Leads .empty s s
  | char {accepts : Char → Bool} {s : Spot} {c : Char} {rest : Text} (rest_eq : s.rest = c :: rest)
      (accepted : accepts c = true) :
      Leads (.char accepts) s ⟨s.offset + 1, some c, rest, s.captures⟩
  | run {greedy : Bool} {accepts : Char → Bool} {s e : Spot}
      (stop : e ∈ Spot.stops accepts s.captures [] s.offset s.previous s.rest) :
      Leads (.run greedy accepts) s e
  | seq {first second : Regex} {s m e : Spot} (before : Leads first s m)
      (after : Leads second m e) : Leads (.seq first second) s e
  | first {first second : Regex} {s e : Spot} (h : Leads first s e) :
      Leads (.choice first second) s e
  | second {first second : Regex} {s e : Spot} (h : Leads second s e) :
      Leads (.choice first second) s e
  | group {number : Nat} {inner : Regex} {s e : Spot} (h : Leads inner s e) :
      Leads (.group number inner) s (s.capture number e)
  | textStart {s : Spot} (h : s.previous.isNone = true) : Leads .textStart s s
  | lineStart {s : Spot} (h : s.previous.all (· == '\n') = true) : Leads .lineStart s s
  | textEnd {s : Spot} (h : (s.rest.isEmpty || s.rest == ['\n']) = true) : Leads .textEnd s s
  | wordEdge {s : Spot} (h : s.atWordEdge = true) : Leads .wordEdge s s

/-- A success of an expression is a success of what comes after it, at a place it leads to. -/
theorem exists_leads_of_follow {α : Type} {r : Regex} {s : Spot} {next : Spot → Option α} {a : α}
    (h : follow r s next = some a) : ∃ e, Leads r s e ∧ next e = some a := by
  induction r generalizing s next with
  | empty => exact ⟨s, .empty, h⟩
  | char accepts =>
      simp only [follow] at h
      split at h
      · simp at h
      · rename_i c rest hrest
        split at h
        · rename_i hc
          exact ⟨_, .char hrest hc, h⟩
        · simp at h
  | run greedy accepts =>
      simp only [follow] at h
      obtain ⟨e, hmem, he⟩ := List.exists_of_findSome?_eq_some h
      have hstop : e ∈ Spot.stops accepts s.captures [] s.offset s.previous s.rest := by
        cases greedy <;> simpa using hmem
      exact ⟨e, .run hstop, he⟩
  | seq first second ih₁ ih₂ =>
      obtain ⟨m, hm, h⟩ := ih₁ h
      obtain ⟨e, he, h⟩ := ih₂ h
      exact ⟨e, .seq hm he, h⟩
  | choice first second ih₁ ih₂ =>
      simp only [follow] at h
      split at h
      · rename_i result hr
        obtain ⟨e, he, hnext⟩ := ih₁ (hr.trans h)
        exact ⟨e, .first he, hnext⟩
      · obtain ⟨e, he, hnext⟩ := ih₂ h
        exact ⟨e, .second he, hnext⟩
  | group number inner ih =>
      obtain ⟨e, he, hnext⟩ := ih h
      exact ⟨_, .group he, hnext⟩
  | textStart =>
      simp only [follow, Option.ite_none_right_eq_some] at h
      exact ⟨s, .textStart h.1, h.2⟩
  | lineStart =>
      simp only [follow, Option.ite_none_right_eq_some] at h
      exact ⟨s, .lineStart h.1, h.2⟩
  | textEnd =>
      simp only [follow, Option.ite_none_right_eq_some] at h
      exact ⟨s, .textEnd h.1, h.2⟩
  | wordEdge =>
      simp only [follow, Option.ite_none_right_eq_some] at h
      exact ⟨s, .wordEdge h.1, h.2⟩

/-! ## Passed text -/

/-- The text `w` lies between the places `s` and `e`. -/
structure Spot.Passes (s : Spot) (w : Text) (e : Spot) : Prop where
  rest_eq : s.rest = w ++ e.rest
  offset_eq : e.offset = s.offset + w.length

namespace Spot

variable {s m e : Spot} {w w' : Text}

theorem Passes.refl (s : Spot) : s.Passes [] s := ⟨rfl, rfl⟩

theorem Passes.trans (h : s.Passes w m) (h' : m.Passes w' e) : s.Passes (w ++ w') e := by
  refine ⟨?_, ?_⟩
  · rw [h.rest_eq, h'.rest_eq, List.append_assoc]
  · rw [h'.offset_eq, h.offset_eq, List.length_append, Nat.add_assoc]

/-- A group holds the text that lies between the places. -/
theorem Passes.text_eq (h : s.Passes w e) : s.rest.take (e.offset - s.offset) = w := by
  rw [h.offset_eq, Nat.add_sub_cancel_left, h.rest_eq, List.take_left]

/-- A run passes accepted characters only, and keeps the groups. -/
theorem exists_passes_of_mem_stops {accepts : Char → Bool} {nearer : List Spot}
    (h : e ∈ stops accepts s.captures nearer s.offset s.previous s.rest) :
    e ∈ nearer ∨
      ∃ w, s.Passes w e ∧ (∀ c ∈ w, accepts c = true) ∧ e.captures = s.captures := by
  obtain ⟨offset, previous, rest, captures⟩ := s
  simp only at h ⊢
  induction rest generalizing nearer offset previous with
  | nil =>
      rcases List.mem_cons.1 h with rfl | h
      · exact .inr ⟨[], .refl _, by simp, rfl⟩
      · exact .inl h
  | cons c rest ih =>
      simp only [stops] at h
      split at h
      · rename_i hc
        rcases ih _ _ h with h | ⟨w, hpasses, hw, hcaptures⟩
        · rcases List.mem_cons.1 h with rfl | h
          · exact .inr ⟨[], .refl _, by simp, rfl⟩
          · exact .inl h
        · have hone : Spot.Passes ⟨offset, previous, c :: rest, captures⟩ [c]
              ⟨offset + 1, some c, rest, captures⟩ := ⟨rfl, rfl⟩
          exact .inr ⟨c :: w, hone.trans hpasses, by simpa [hc] using hw, hcaptures⟩
      · rcases List.mem_cons.1 h with rfl | h
        · exact .inr ⟨[], .refl _, by simp, rfl⟩
        · exact .inl h

end Spot
/-! ## Matches -/

/-- Whether a match is the one at some place of a text. -/
def Finds (r : Regex) (t : Text) (m : Match) : Prop :=
  ∃ offset previous, offset ≤ t.length ∧ matchAt r offset previous (t.drop offset) = some m

section Searches

variable {r : Regex} {t rest : Text} {offset : Nat} {previous : Option Char} {m : Match}

theorem drop_succ_of_drop_eq_cons {c : Char} (h : t.drop offset = c :: rest) :
    offset + 1 ≤ t.length ∧ t.drop (offset + 1) = rest := by
  have hlength := congrArg List.length h
  rw [List.length_drop, List.length_cons] at hlength
  refine ⟨by omega, ?_⟩
  rw [← List.drop_drop, h]
  rfl

theorem finds_of_findFrom (hle : offset ≤ t.length) (hrest : t.drop offset = rest)
    (h : findFrom r offset previous rest = some m) : r.Finds t m := by
  induction rest generalizing offset previous with
  | nil => exact ⟨offset, previous, hle, hrest ▸ h⟩
  | cons c rest ih =>
      simp only [findFrom] at h
      split at h
      · rename_i hm
        exact ⟨offset, previous, hle, hrest ▸ hm.trans h⟩
      · obtain ⟨hle', hrest'⟩ := drop_succ_of_drop_eq_cons hrest
        exact ih hle' hrest' h

theorem finds_of_mem_findAllFrom {skip : Nat} (hle : offset ≤ t.length)
    (hrest : t.drop offset = rest) (h : m ∈ findAllFrom r skip offset previous rest) :
    r.Finds t m := by
  induction rest generalizing skip offset previous with
  | nil =>
      simp only [findAllFrom] at h
      split at h
      · exact ⟨offset, previous, hle, hrest ▸ Option.mem_toList.1 h⟩
      · simp at h
  | cons c rest ih =>
      obtain ⟨hle', hrest'⟩ := drop_succ_of_drop_eq_cons hrest
      cases skip with
      | succ skip => exact ih hle' hrest' h
      | zero =>
          simp only [findAllFrom] at h
          split at h
          · rename_i hm
            rcases List.mem_cons.1 h with rfl | h
            · exact ⟨offset, previous, hle, hrest ▸ hm⟩
            · exact ih hle' hrest' h
          · exact ih hle' hrest' h

/-- The leftmost match is the one at some place. -/
theorem finds_of_find? (h : r.find? t = some m) : r.Finds t m :=
  finds_of_findFrom (Nat.zero_le _) rfl h

/-- So are all matches. -/
theorem finds_of_mem_findAll (h : m ∈ r.findAll t) : r.Finds t m :=
  finds_of_mem_findAllFrom (Nat.zero_le _) rfl h

/-- A match is what lies between two places of the text, to the second of which the expression leads
from the first. -/
theorem Finds.exists_leads (h : r.Finds t m) : ∃ s e : Spot, r.Leads s e ∧
    (s.offset ≤ t.length ∧ s.rest = t.drop s.offset ∧ s.captures = []) ∧
    m = ⟨s.offset, e.offset, s.rest.take (e.offset - s.offset), e.captures⟩ := by
  obtain ⟨offset, previous, hle, h⟩ := h
  obtain ⟨e, he, h⟩ := exists_leads_of_follow h
  exact ⟨_, e, he, ⟨hle, rfl, rfl⟩, (Option.some.inj h).symm⟩

end Searches

end Regex
end CodeSurvey
