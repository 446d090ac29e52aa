import CodeSurvey.Proofs.Json.Numbers

/-!
# The shortest decimal text is a number

Whatever digits are found for a number, their text has a whole part that does not begin with a zero
in vain, and a fraction or an exponent.
-/

namespace CodeSurvey
namespace Shortest

open Json

/-! ## The digits -/

theorem low_pos {mantissa : Nat} (h : mantissa ≠ 0) (exponent : Int) :
    0 < (Double.scaled mantissa exponent).low := by
  unfold Double.scaled
  simp only
  refine Nat.mul_pos ?_ (Nat.pow_pos (by decide))
  split <;> omega

/-- Zero is in no interval of a positive number. -/
theorem onGrid?_ne_zero {s : Double.Scaled} (h : 0 < s.low) (closed : Bool) (unit : Int) :
    onGrid? s closed unit ≠ some 0 := by
  intro hzero
  have hlow : 0 < s.low * Nat.pow 10 (-unit).toNat := Nat.mul_pos h (Nat.pow_pos (by decide))
  unfold onGrid? at hzero
  simp only at hzero
  generalize s.value * Nat.pow 10 (-unit).toNat / (Nat.pow 10 unit.toNat * s.denominator) = below
    at hzero
  have hbelow {step high : Nat} (hin : (if closed = true then
      decide (s.low * Nat.pow 10 (-unit).toNat ≤ below * step) && decide (below * step ≤ high)
      else decide (s.low * Nat.pow 10 (-unit).toNat < below * step) &&
        decide (below * step < high)) = true) : below ≠ 0 := by
    rintro rfl
    simp only [Nat.zero_mul, Nat.not_le.2 hlow, Nat.not_lt_zero] at hin
    simp at hin
  split at hzero
  next hin _ =>
    have hne := hbelow hin
    split_ifs at hzero
    · exact hne (Option.some.inj hzero)
    · exact Nat.succ_ne_zero below (Option.some.inj hzero)
    · exact hne (Option.some.inj hzero)
    · exact Nat.succ_ne_zero below (Option.some.inj hzero)
  next hin _ => exact hbelow hin (Option.some.inj hzero)
  next => exact Nat.succ_ne_zero below (Option.some.inj hzero)
  next => exact Option.some_ne_none 0 hzero.symm

theorem dropZeros_ne_zero (fuel : Nat) {n : Nat} (h : n ≠ 0) (unit : Int) :
    (dropZeros fuel n unit).1 ≠ 0 := by
  induction fuel generalizing n unit with
  | zero => exact h
  | succ fuel ih =>
      rw [dropZeros]
      split
      · exact ih (by omega) _
      · exact h

/-- If no digits are found, it is zero in the place of the units. -/
theorem search_eq_or_ne {s : Double.Scaled} (h : 0 < s.low) (closed : Bool) (magnitude : Int)
    (grids length : Nat) :
    search s closed magnitude grids length = (0, 0) ∨
      (search s closed magnitude grids length).1 ≠ 0 := by
  induction grids generalizing length with
  | zero => exact .inl rfl
  | succ grids ih =>
      rw [search]
      cases hgrid : onGrid? s closed (magnitude - length) with
      | none => exact ih (length + 1)
      | some n =>
          have hn : n ≠ 0 := by
            rintro rfl
            exact onGrid?_ne_zero h closed _ hgrid
          exact .inr (dropZeros_ne_zero length hn _)

theorem digits_eq_or_ne {mantissa : Nat} (h : mantissa ≠ 0) (exponent : Int) :
    digits mantissa exponent = (0, 0) ∨ (digits mantissa exponent).1 ≠ 0 :=
  search_eq_or_ne (low_pos h exponent) _ _ _ _

/-! ## Notations -/

theorem digits_replicate (n : Nat) : Digits (List.replicate n '0') := by
  intro c hc
  rw [List.eq_of_mem_replicate hc]
  decide

/-- One digit is a whole part. -/
theorem whole_singleton {d : Char} (hd : d.isDigit = true) : Whole [d] where
  ne := List.cons_ne_nil d []
  digits := List.forall_mem_singleton.2 hd
  zero h := by rw [Option.some.inj h]

section Notations

variable {ds : Text}

/-- A fraction has a digit, if need be a zero. -/
theorem fraction_of_digits (hds : Digits ds) :
    Fraction ('.' :: if ds.isEmpty then ['0'] else ds) := by
  by_cases hne : ds = []
  · rw [hne]
    exact .some (List.cons_ne_nil _ _) (digits_replicate 1)
  · rw [if_neg (by simpa using hne)]
    exact .some hne hds

/-- In places, the digits before the point are a whole part and those after it a fraction. -/
theorem magnitude_inPlaces (hne : ds ≠ []) (hds : Digits ds) {whole : Int}
    (hzero : ds.head? = some '0' → whole ≤ 1) : Magnitude (inPlaces ds whole) := by
  unfold inPlaces
  split
  next =>
    have hfraction : Fraction ('.' :: (List.replicate (-whole).toNat '0' ++ ds)) :=
      .some (by simp [hne]) (List.forall_mem_append.2 ⟨digits_replicate _, hds⟩)
    have h := Magnitude.mk (whole_singleton (show '0'.isDigit = true by decide)) hfraction .none rfl
    rwa [List.append_nil] at h
  next hwhole =>
    obtain ⟨d, ds, rfl⟩ := List.exists_cons_of_ne_nil hne
    obtain ⟨k, hk⟩ : ∃ k, whole.toNat = k + 1 := ⟨whole.toNat - 1, by omega⟩
    have hpadded : Digits (d :: ds ++ List.replicate (whole.toNat - (d :: ds).length) '0') :=
      List.forall_mem_append.2 ⟨hds, digits_replicate _⟩
    have hfront : Whole ((d :: ds ++ List.replicate (whole.toNat - (d :: ds).length) '0').take
        whole.toNat) := by
      refine ⟨by simp [hk], fun c hc => hpadded c (List.mem_of_mem_take hc), fun h => ?_⟩
      rw [hk, List.cons_append, List.take_succ_cons] at h ⊢
      have hone := hzero h
      obtain rfl : k = 0 := by omega
      rw [Option.some.inj h]
      rfl
    have hback : Fraction _ := fraction_of_digits (hpadded.drop whole.toNat)
    have h := Magnitude.mk hfront hback .none rfl
    rwa [List.append_nil] at h

/-- With an exponent, the first digit is the whole part. -/
theorem magnitude_withExponent (hne : ds ≠ []) (hds : Digits ds) (exponent : Int) :
    Magnitude (withExponent ds exponent) := by
  obtain ⟨d, ds, rfl⟩ := List.exists_cons_of_ne_nil hne
  have hrest : Digits ds := fun c hc => hds c (List.mem_cons_of_mem d hc)
  have hfraction : Fraction (if ds.isEmpty then [] else '.' :: ds) := by
    split
    next => exact .none
    next h => exact .some (by simpa using h) hrest
  have hsize := whole_ofNat exponent.natAbs
  have hexponent : Exponent ('e' :: ([if exponent < 0 then '-' else '+'] ++
      (List.replicate (2 - (Text.ofNat exponent.natAbs).length) '0' ++
        Text.ofNat exponent.natAbs))) :=
    .some (.inl rfl) (by split <;> simp) (by simp [hsize.ne])
      (List.forall_mem_append.2 ⟨digits_replicate _, hsize.digits⟩)
  have h := Magnitude.mk (whole_singleton (hds d List.mem_cons_self)) hfraction hexponent
    (by simp)
  simpa [withExponent] using h

end Notations

/-- Digits that begin with a zero are a zero in the place of the units. -/
theorem magnitude_magnitudeText (mantissa : Nat) (exponent : Int) :
    Magnitude (magnitudeText mantissa exponent) := by
  unfold magnitudeText
  split
  next =>
    exact @magnitude_inPlaces ['0'] (List.cons_ne_nil _ _) (digits_replicate 1) 1
      fun _ => Int.le_refl 1
  next hmantissa =>
    have hds := whole_ofNat (digits mantissa exponent).1
    have hzero : (Text.ofNat (digits mantissa exponent).1).head? = some '0' →
        (digits mantissa exponent).2 + (Text.ofNat (digits mantissa exponent).1).length ≤ 1 := by
      intro hhead
      rcases digits_eq_or_ne hmantissa exponent with h | h
      · rw [h]
        decide
      · exact absurd hhead (head?_ofNat h)
    simp only
    split
    next => exact magnitude_inPlaces hds.ne hds.digits hzero
    next => exact magnitude_withExponent hds.ne hds.digits _

/-- The text of a figure is the spelling of a number. -/
theorem spelling_text (x : Float) : Spelling (text ⟨"Infinity", "NaN"⟩ x) := by
  unfold text
  cases Double.ofFloat x with
  | notANumber => exact .notANumber
  | infinite negative => exact .infinite negative
  | finite negative mantissa exponent =>
      exact .finite negative (magnitude_magnitudeText mantissa exponent)

end Shortest
end CodeSurvey
