import CodeSurvey.Proofs.Text.Words
import CodeSurvey.Text.Blank

/-!
# Lines in the wide sense

The lines in the wide sense are the pieces between line boundaries, where a carriage return before a
newline does not count and a boundary at the end begins no further line. Both only leave out pieces
that are empty. So whatever is gathered line by line, and finds nothing in an empty line, can be
gathered from the pieces between all boundaries.
-/

namespace CodeSurvey
namespace Text

/-! ## Carriage returns before newlines -/

/-- The fold remembers whether the text begins with a newline. -/
theorem snd_foldr_dropReturns (t : Text) :
    (t.foldr (fun c (acc : Text × Bool) =>
      if c == '\r' && acc.2 then (acc.1, false) else (c :: acc.1, c == '\n')) ([], false)).2 =
        (t.head? == some '\n') := by
  cases t with
  | nil => rfl
  | cons c t =>
      rw [List.foldr_cons]
      split
      · rename_i hc
        simp only [Bool.and_eq_true, beq_iff_eq] at hc
        simp [hc.1]
      · simp

theorem dropReturns_cons (c : Char) (t : Text) :
    dropReturns (c :: t) =
      if c = '\r' ∧ t.head? = some '\n' then dropReturns t else c :: dropReturns t := by
  rw [dropReturns, List.foldr_cons, snd_foldr_dropReturns, dropReturns]
  simp only [Bool.and_eq_true, beq_iff_eq]
  split <;> rfl

/-- A text without carriage returns has newlines only. -/
theorem unifyNewlines_of_not_mem {t : Text} (ht : '\r' ∉ t) : unifyNewlines t = t := by
  induction t with
  | nil => rfl
  | cons c t ih =>
      obtain ⟨hc, ht⟩ := not_or.1 (mt List.mem_cons.2 ht)
      have hkeep := ih ht
      rw [unifyNewlines] at hkeep ⊢
      rw [dropReturns_cons, if_neg fun h => hc h.1.symm, List.map_cons, hkeep,
        if_neg (by simpa using Ne.symm hc)]

/-! ## What is gathered line by line -/

section Gathering

variable {α : Type} {f : Text → List α}

theorem flatMap_splitWhere (f : Text → List α) (p : Char → Bool) (t : Text) :
    (splitWhere p t).flatMap f =
      f ((splitWhere p t).headD []) ++ (splitWhere p t).tail.flatMap f := by
  obtain ⟨first, rest, h⟩ := List.exists_cons_of_ne_nil (splitWhere_ne_nil p t)
  rw [h]
  rfl

/-- The first piece stays as it is, and of the others only empty ones are lost. -/
theorem pieces_dropReturns (hf : f [] = []) (t : Text) :
    (splitWhere isLineBoundary (dropReturns t)).headD [] =
        (splitWhere isLineBoundary t).headD [] ∧
      (splitWhere isLineBoundary (dropReturns t)).tail.flatMap f =
        (splitWhere isLineBoundary t).tail.flatMap f := by
  induction t with
  | nil => exact ⟨rfl, rfl⟩
  | cons c t ih =>
      obtain ⟨hhead, htail⟩ := ih
      rw [dropReturns_cons]
      split
      · -- The return is dropped, and with it the empty piece between it and the newline.
        rename_i hc
        obtain ⟨rfl, hnewline⟩ := hc
        obtain ⟨t, rfl⟩ := List.head?_eq_some_iff.1 hnewline
        have hfirst : (splitWhere isLineBoundary ('\n' :: t)).headD [] = [] := by
          rw [splitWhere_cons_of_pos (by decide), List.headD_cons]
        rw [splitWhere_cons_of_pos (c := '\r') (by decide), hhead, htail, List.headD_cons,
          List.tail_cons, flatMap_splitWhere f, hfirst, hf]
        exact ⟨rfl, rfl⟩
      · cases hc : isLineBoundary c with
        | true =>
            rw [splitWhere_cons_of_pos hc, splitWhere_cons_of_pos hc, List.tail_cons,
              List.tail_cons, flatMap_splitWhere f, hhead, htail, ← flatMap_splitWhere f]
            exact ⟨rfl, rfl⟩
        | false =>
            rw [splitWhere_cons_of_neg hc, splitWhere_cons_of_neg hc, hhead]
            exact ⟨rfl, htail⟩

/-- Lines in the wide sense are the pieces between all boundaries, less some that are empty. -/
theorem flatMap_splitLines (hf : f [] = []) (t : Text) :
    (splitLines t).flatMap f = (splitWhere isLineBoundary t).flatMap f := by
  have hpieces : (splitWhere isLineBoundary (dropReturns t)).flatMap f =
      (splitWhere isLineBoundary t).flatMap f := by
    obtain ⟨hhead, htail⟩ := pieces_dropReturns hf t
    rw [flatMap_splitWhere, hhead, htail, ← flatMap_splitWhere]
  rw [← hpieces, splitLines]
  split
  · rename_i hlast
    obtain ⟨pieces, h⟩ := List.getLast?_eq_some_iff.1 hlast
    simp [h, hf]
  · rfl

end Gathering

end Text
end CodeSurvey
