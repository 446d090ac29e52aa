import CodeSurvey.Text.Basic
import Mathlib.Data.Char
import Mathlib.Data.List.Lex
import Mathlib.Data.List.Nodup
import Mathlib.Data.Prod.Lex

/-!
# Ranking by keys

What a survey puts in order is sorted by a test of two items. Each of these tests goes by a key: it
compares the first parts of two keys, then the second ones, and so on. Where no two items have one
key, sorting puts them in a strict order, and the order in which they came does not matter.

## Main definitions

* `RanksBy le key`: the test `le` goes by the key.
-/

namespace CodeSurvey

/-- The order of code points is the lexicographic order of the library. -/
theorem Text.le_eq_true_iff {s t : Text} : Text.le s t = true ↔ s ≤ t := by
  rw [← not_lt]
  induction s generalizing t with
  | nil => simp [Text.le]
  | cons a s ih =>
      cases t with
      | nil => simp [Text.le]
      | cons b t =>
          rw [List.cons_lt_cons_iff, Text.le]
          by_cases hab : a = b
          · simp [hab, ih]
          · have hne : a.toNat ≠ b.toNat := fun heq => hab (Char.toNat_inj.1 heq)
            have hlt : b < a ↔ b.toNat < a.toNat := Iff.rfl
            simp only [hab, Ne.symm hab, if_false, false_and, or_false, decide_eq_true_eq, hlt]
            omega

/-- Whether a test of two items compares their keys. -/
def RanksBy {α β : Type} [LE β] (le : α → α → Bool) (key : α → β) : Prop :=
  ∀ a b, le a b = true ↔ key a ≤ key b

/-- Of keys that begin with a falling number the one with the higher number comes first. -/
theorem toLex_neg_le_toLex_neg_iff {β : Type} [LE β] {m n : Nat} {a b : β} :
    toLex (-(m : Int), a) ≤ toLex (-(n : Int), b) ↔ n < m ∨ m = n ∧ a ≤ b := by
  rw [Prod.Lex.toLex_le_toLex]
  dsimp only
  rw [Int.neg_lt_neg_iff, Int.ofNat_lt, Int.neg_inj, Int.ofNat_inj]

/-- Items that are told apart by a part of their keys have distinct keys. -/
theorem nodup_keys_of_part {α β γ : Type} {key : α → β} {f : α → γ} {l : List α} (part : β → γ)
    (hpart : ∀ a, part (key a) = f a) (h : (l.map f).Nodup) : (l.map key).Nodup := by
  refine .of_map part ?_
  simpa [Function.comp_def, hpart] using h

namespace RanksBy

variable {α β : Type} [LinearOrder β] {le : α → α → Bool} {key : α → β} {l l' : List α}

theorem pairwise_mergeSort (h : RanksBy le key) (l : List α) :
    (l.mergeSort le).Pairwise fun a b => key a ≤ key b := by
  have hsorted : (l.mergeSort le).Pairwise fun a b => le a b = true := by
    apply List.pairwise_mergeSort
    · intro a b c hab hbc
      rw [h] at *
      exact hab.trans hbc
    · intro a b
      rw [Bool.or_eq_true, h, h]
      exact le_total (key a) (key b)
  exact hsorted.imp fun hab => (h _ _).1 hab

/-- Sorting items with distinct keys puts them in a strict order. -/
theorem pairwise_mergeSort_lt (h : RanksBy le key) (hl : (l.map key).Nodup) :
    ((l.mergeSort le).map key).Pairwise (· < ·) := by
  have hne : (l.mergeSort le).Pairwise fun a b => key a ≠ key b := by
    refine (List.pairwise_map.1 hl).perm (List.mergeSort_perm l le).symm ?_
    exact fun hab => hab.symm
  rw [List.pairwise_map]
  exact (h.pairwise_mergeSort l).imp₂ (fun _ _ hle hne => lt_of_le_of_ne hle hne) hne

/-- Items with distinct keys are sorted alike in whatever order they come. -/
theorem mergeSort_eq_of_perm (h : RanksBy le key) (hl : (l.map key).Nodup) (hperm : l.Perm l') :
    l.mergeSort le = l'.mergeSort le := by
  refine List.Perm.eq_of_pairwise ?_ (h.pairwise_mergeSort l) (h.pairwise_mergeSort l') ?_
  · intro a b ha hb hab hba
    rw [List.mem_mergeSort] at ha hb
    exact List.inj_on_of_nodup_map hl ha (hperm.mem_iff.2 hb) (le_antisymm hab hba)
  · exact (List.mergeSort_perm l le).trans (hperm.trans (List.mergeSort_perm l' le).symm)

/-- The first of some sorted items with distinct keys come before all that are left out. -/
theorem lt_of_not_mem_take (h : RanksBy le key) (hl : (l.map key).Nodup) {n : Nat} {a b : α}
    (ha : a ∈ (l.mergeSort le).take n) (hb : b ∈ l) (hout : b ∉ (l.mergeSort le).take n) :
    key a < key b := by
  have hsorted := List.pairwise_map.1 (h.pairwise_mergeSort_lt hl)
  rw [← List.take_append_drop n (l.mergeSort le), List.pairwise_append] at hsorted
  have hmem : b ∈ (l.mergeSort le).take n ++ (l.mergeSort le).drop n := by
    rw [List.take_append_drop, List.mem_mergeSort]
    exact hb
  exact hsorted.2.2 a ha b ((List.mem_append.1 hmem).resolve_left hout)

/-- The test of an order itself goes by the items. -/
theorem decide_le : RanksBy (fun a b : β => decide (a ≤ b)) id := fun _ _ => decide_eq_true_iff

end RanksBy

/-- Sorting distinct texts puts them in a strict order. -/
theorem Text.pairwise_sort_lt {ts : List Text} (h : ts.Nodup) :
    (Text.sort ts).Pairwise (· < ·) := by
  have hranks : RanksBy Text.le (fun t : Text => t) := fun _ _ => Text.le_eq_true_iff
  simpa [Text.sort] using hranks.pairwise_mergeSort_lt (by simpa using h)

end CodeSurvey
