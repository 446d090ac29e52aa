import CodeSurvey.Excerpt.Finders

/-!
# Picking functions

The declared functions of a file are gone through in order, and some of them are picked. What every
pick keeps holds of all that are picked: they are no more than the limit, they stand on different
lines, and each of them is declared and worth showing.

## Main definitions

* `Picked t declared picks`: what holds of the functions that are picked from the declared ones.
-/

namespace CodeSurvey
namespace Category

variable {t : Text} {declared : List (Text × Nat)}

/-- What holds before any function is picked and is kept by every pick holds in the end. The latest
pick comes first. -/
theorem pickFunctions_induction {P : List (Nat × Text) → Prop} {found : List (Nat × Text)}
    (start : P found)
    (pick : ∀ found name offset, (name, offset) ∈ declared → found.length < functionLimit →
      lineOfOffset t offset ∉ found.map (·.1) → isInteresting name t offset = true → P found →
      P ((lineOfOffset t offset, name) :: found)) :
    P (pickFunctions t found declared).reverse := by
  induction declared generalizing found with
  | nil => simpa [pickFunctions] using start
  | cons d declared ih =>
      obtain ⟨name, offset⟩ := d
      have hrest : ∀ found name offset, (name, offset) ∈ declared → found.length < functionLimit →
          lineOfOffset t offset ∉ found.map (·.1) → isInteresting name t offset = true → P found →
          P ((lineOfOffset t offset, name) :: found) :=
        fun found name offset hmem => pick found name offset (List.mem_cons_of_mem _ hmem)
      rw [pickFunctions]
      split
      · simpa using start
      · rename_i hlimit
        simp only
        split
        · exact ih start hrest
        · rename_i hnew
          simp only [Bool.or_eq_true, Bool.not_eq_true', not_or, Bool.not_eq_false] at hnew
          obtain ⟨hline, hinteresting⟩ := hnew
          refine ih
            (pick found name offset List.mem_cons_self (by omega) ?_ hinteresting start) hrest
          simpa [List.any_eq_true] using hline

/-- What holds of the functions that are picked from the declared ones, each given by its line and
its name. -/
structure Picked (t : Text) (declared : List (Text × Nat)) (picks : List (Nat × Text)) : Prop where
  length_le : picks.length ≤ functionLimit
  nodup_lines : (picks.map (·.1)).Nodup
  worthy : ∀ line name, (line, name) ∈ picks → ∃ offset, (name, offset) ∈ declared ∧
    line = lineOfOffset t offset ∧ isInteresting name t offset = true

theorem Picked.concat {picks : List (Nat × Text)} {name : Text} {offset : Nat}
    (h : Picked t declared picks) (hdeclared : (name, offset) ∈ declared)
    (hlimit : picks.length < functionLimit) (hline : lineOfOffset t offset ∉ picks.map (·.1))
    (hinteresting : isInteresting name t offset = true) :
    Picked t declared (picks ++ [(lineOfOffset t offset, name)]) := by
  refine ⟨?_, ?_, ?_⟩
  · rw [List.length_append, List.length_singleton]
    omega
  · simp only [List.map_append, List.map_cons, List.map_nil, List.nodup_append]
    refine ⟨h.nodup_lines, by simp, ?_⟩
    intro line hmem line' hlast heq
    rw [heq, List.mem_singleton.1 hlast] at hmem
    exact hline hmem
  · intro line name' hmem
    rcases List.mem_append.1 hmem with hmem | hlast
    · exact h.worthy line name' hmem
    · obtain ⟨rfl, rfl⟩ := Prod.mk.inj (List.mem_singleton.1 hlast)
      exact ⟨offset, hdeclared, rfl, hinteresting⟩

theorem picked_pickFunctions (t : Text) (declared : List (Text × Nat)) :
    Picked t declared (pickFunctions t [] declared) := by
  have hpicked : Picked t declared (pickFunctions t [] declared).reverse.reverse := by
    apply pickFunctions_induction (P := fun found => Picked t declared found.reverse)
    · exact ⟨Nat.zero_le _, List.nodup_nil, by simp⟩
    · intro found name offset hdeclared hlimit hline hinteresting hfound
      rw [List.reverse_cons]
      apply hfound.concat hdeclared _ _ hinteresting
      · simpa using hlimit
      · simpa using hline
  rwa [List.reverse_reverse] at hpicked

end Category
end CodeSurvey
