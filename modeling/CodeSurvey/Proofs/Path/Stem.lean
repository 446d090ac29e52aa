import CodeSurvey.Path.Basic
import CodeSurvey.Proofs.Text.Pieces

/-!
# Names and stems of longer paths

Text at the end of a path belongs to its last name as long as it has no slash. A name with a suffix
keeps its stem, or gets a longer one, when text is put behind it.
-/

namespace CodeSurvey

/-! ## Last pieces -/

namespace Text

/-- Text without the separator, put behind a text, becomes part of the last piece. -/
theorem exists_splitOn_append (separator : Char) (t : Text) : ∃ before last, separator ∉ last ∧
    (t = last ∨ ∃ front, t = front ++ separator :: last) ∧
    ∀ x, separator ∉ x → splitOn separator (t ++ x) = before ++ [last ++ x] := by
  induction t with
  | nil =>
      refine ⟨[], [], by simp, .inl rfl, fun x hx => ?_⟩
      have h : splitOn separator (joinWith [separator] [x]) = [x] :=
        splitOn_joinWith (by simpa using hx) (by simp)
      simpa [joinWith] using h
  | cons c t ih =>
      obtain ⟨before, last, hlast, ht, hsplit⟩ := ih
      by_cases hc : c = separator
      · subst hc
        refine ⟨[] :: before, last, hlast, .inr ?_, fun x hx => ?_⟩
        · rcases ht with rfl | ⟨front, rfl⟩
          · exact ⟨[], rfl⟩
          · exact ⟨c :: front, rfl⟩
        · rw [List.cons_append, splitOn, splitWhere_cons_of_pos (by simp), ← splitOn, hsplit x hx]
          rfl
      · have hcut : ∀ x, separator ∉ x → splitOn separator (c :: t ++ x) =
            (c :: (before ++ [last ++ x]).headD []) :: (before ++ [last ++ x]).tail := by
          intro x hx
          rw [List.cons_append, splitOn, splitWhere_cons_of_neg (by simpa using hc), ← splitOn,
            hsplit x hx]
        cases before with
        | nil =>
            -- The text has one piece only, which the character begins.
            have hone : t = last := by
              have hnil := congrArg (joinWith [separator]) (hsplit [] (by simp))
              rw [joinWith_splitOn] at hnil
              simpa [joinWith] using hnil
            subst hone
            exact ⟨[], c :: t, by simp [Ne.symm hc, hlast], .inl rfl, hcut⟩
        | cons piece before =>
            refine ⟨(c :: piece) :: before, last, hlast, .inr ?_, hcut⟩
            rcases ht with rfl | ⟨front, rfl⟩
            · have hlength := congrArg List.length (hsplit [] (by simp))
              rw [List.append_nil, length_splitOn, List.count_eq_zero.2 hlast] at hlength
              simp at hlength
            · exact ⟨c :: front, rfl⟩

end Text

/-! ## Names -/

namespace Path

/-- What has no slash belongs to the name of the path that it is put behind, unless that path ends
with a slash or a point. -/
theorem name_append {p x : Text} {c : Char} (hlast : p.getLast? = some c) (hslash : c ≠ '/')
    (hpoint : c ≠ '.') (hx : '/' ∉ x) : name (p ++ x) = name p ++ x := by
  obtain ⟨before, last, -, hp, hsplit⟩ := Text.exists_splitOn_append '/' p
  have hlast' : last.getLast? = some c := by
    rcases hp with rfl | ⟨front, rfl⟩
    · exact hlast
    · cases last with
      | nil =>
          rw [List.getLast?_concat] at hlast
          exact absurd (Option.some.inj hlast).symm hslash
      | cons d last => simpa using hlast
  have hname : ∀ x, '/' ∉ x → name (p ++ x) = last ++ x := by
    intro x hx
    have hne : last ++ x ≠ [] := by
      intro hnil
      simp [(List.append_eq_nil_iff.1 hnil).1] at hlast'
    have hne' : last ++ x ≠ ['.'] := by
      intro heq
      cases last with
      | nil => simp at hlast'
      | cons d last =>
          obtain ⟨rfl, hnil⟩ := List.cons.inj heq
          rw [(List.append_eq_nil_iff.1 hnil).1, List.getLast?_singleton] at hlast'
          exact hpoint (Option.some.inj hlast').symm
    rw [name, parts, hsplit x hx, List.filter_append]
    simp [hne, hne']
  have hself := hname [] (by simp)
  rw [List.append_nil, List.append_nil] at hself
  rw [hname x hx, hself]

/-- A name has no slash. -/
theorem slash_not_mem_name (p : Text) : '/' ∉ name p := by
  rw [name, List.getLastD_eq_getLast?]
  cases hlast : (parts p).getLast? with
  | none => simp
  | some n =>
      have hmem : n ∈ parts p := List.mem_of_getLast? hlast
      exact Text.not_mem_of_mem_splitOn (List.mem_filter.1 hmem).1

/-! ## Stems -/

theorem slash_not_mem_stem (p : Text) : '/' ∉ stem p := by
  intro hmem
  apply slash_not_mem_name p
  rw [← splitName_append (name p)]
  exact List.mem_append_left _ hmem

/-- The last point of a name divides it if something stands on both sides. -/
theorem splitName_of_point {s tail : Text} (hs : s ≠ []) (htail : tail ≠ []) (h : '.' ∉ tail) :
    splitName (s ++ '.' :: tail) = (s, '.' :: tail) := by
  have htake : ((s ++ '.' :: tail).reverse.takeWhile (· != '.')).reverse = tail := by
    rw [List.reverse_append, List.reverse_cons, List.append_assoc, List.takeWhile_append_of_pos]
    · simp
    · intro c hc
      have hne : c ≠ '.' := fun heq => h (heq ▸ List.mem_reverse.1 hc)
      simpa using hne
  have hlength : (s ++ '.' :: tail).length - tail.length - 1 = s.length := by
    rw [List.length_append, List.length_cons]
    omega
  rw [splitName]
  simp only [htake, hlength, List.take_left]
  simp [hs, htail]

/-- A point at the end of a name divides nothing. -/
theorem splitName_of_last_point (s : Text) : splitName (s ++ ['.']) = (s ++ ['.'], []) := by
  simp [splitName]

/-- A name with a suffix is its stem, a point and what follows the point. -/
theorem exists_point_of_suffix {n : Text} (h : (splitName n).2 ≠ []) :
    ∃ tail, n = (splitName n).1 ++ '.' :: tail ∧ (splitName n).1 ≠ [] ∧ tail ≠ [] ∧ '.' ∉ tail := by
  have happend := splitName_append n
  unfold splitName at h happend ⊢
  simp only at h happend ⊢
  split at h
  · rename_i hcut
    rw [if_pos hcut] at happend ⊢
    simp only [Bool.and_eq_true, Bool.not_eq_true', List.isEmpty_eq_false_iff] at hcut
    refine ⟨_, happend.symm, hcut.1.2, hcut.2, fun hmem => ?_⟩
    simpa using List.all_eq_true.1 List.all_takeWhile _ (List.mem_reverse.1 hmem)
  · exact absurd rfl h

/-- Text behind a name with a suffix leaves the stem, or makes it longer. -/
theorem prefix_splitName_append {n : Text} (h : (splitName n).2 ≠ []) (x : Text) :
    (splitName n).1 <+: (splitName (n ++ x)).1 := by
  obtain ⟨tail, hn, hstem, htail, hpoint⟩ := exists_point_of_suffix h
  generalize (splitName n).1 = stem at hn hstem ⊢
  subst hn
  -- The last point of what is put behind, if there is one, is where the longer name is divided.
  obtain ⟨-, last, hlast, hx, -⟩ := Text.exists_splitOn_append '.' x
  rcases hx with rfl | ⟨front, rfl⟩
  · have hpoint' : '.' ∉ tail ++ x := by simp [hpoint, hlast]
    have hsplit : splitName (stem ++ '.' :: tail ++ x) = (stem, '.' :: (tail ++ x)) := by
      rw [List.append_assoc, List.cons_append]
      exact splitName_of_point hstem (by simp [htail]) hpoint'
    exact hsplit ▸ List.prefix_refl stem
  · have hwhole : stem ++ '.' :: tail ++ (front ++ '.' :: last) =
        (stem ++ '.' :: tail ++ front) ++ '.' :: last := by simp
    rw [hwhole]
    by_cases hnil : last = []
    · rw [hnil, splitName_of_last_point]
      simp
    · rw [splitName_of_point (by simp) hnil hlast]
      simp

/-- A path with a suffix has no longer stem than it has with more text in its last name. -/
theorem length_stem_le {p x : Text} {c : Char} (hlast : p.getLast? = some c) (hslash : c ≠ '/')
    (hpoint : c ≠ '.') (hsuffix : suffix p ≠ []) (hx : '/' ∉ x) :
    (stem p).length ≤ (stem (p ++ x)).length := by
  rw [stem, stem, name_append hlast hslash hpoint hx]
  exact (prefix_splitName_append hsuffix x).length_le

end Path
end CodeSurvey
