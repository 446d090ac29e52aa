import CodeSurvey.Json.Parser
import Mathlib.Data.List.Basic

/-!
# Numbers that are written and read back

A number is spelled by a sign, a whole part, a fraction and an exponent; the reader takes these
parts one after the other, each as long as it can be. What comes after a number in a document goes
on with none of them.

## Main definitions

* `Json.Whole`, `Json.Fraction`, `Json.Exponent`: the parts of a number.
* `Json.Spelling t`: `t` spells a number that is no integer, or one of the words for such numbers.
* `Json.Follows t`: what comes after a value.
-/

namespace CodeSurvey
namespace Json

/-! ## Parts -/

/-- A sign, if there is one. -/
def sign (negative : Bool) : Text := if negative then ['-'] else []

/-- Digits alone. -/
def Digits (t : Text) : Prop := ∀ c ∈ t, c.isDigit = true

theorem Digits.drop {t : Text} (h : Digits t) (n : Nat) : Digits (t.drop n) :=
  fun c hc => h c (List.mem_of_mem_drop hc)

/-- A whole part. Only zero begins with a zero. -/
structure Whole (t : Text) : Prop where
  ne : t ≠ []
  digits : Digits t
  zero : t.head? = some '0' → t = ['0']

/-- A fraction or nothing. -/
inductive Fraction : Text → Prop
  | none : Fraction []
  | some {ds : Text} (ne : ds ≠ []) (digits : Digits ds) : Fraction ('.' :: ds)

/-- An exponent or nothing. -/
inductive Exponent : Text → Prop
  | none : Exponent []
  | some {mark : Char} {sign ds : Text} (mark_eq : mark = 'e' ∨ mark = 'E')
      (sign_eq : sign = [] ∨ sign = ['+'] ∨ sign = ['-']) (ne : ds ≠ []) (digits : Digits ds) :
      Exponent (mark :: (sign ++ ds))

/-- The spelling of a number that is no integer, without its sign. -/
inductive Magnitude : Text → Prop
  | mk {whole fraction exponent : Text} (isWhole : Whole whole) (isFraction : Fraction fraction)
      (isExponent : Exponent exponent) (ne : (fraction.isEmpty && exponent.isEmpty) = false) :
      Magnitude (whole ++ fraction ++ exponent)

/-- The spelling of a number that is no integer, or a word for what has no digits. -/
inductive Spelling : Text → Prop
  | notANumber : Spelling "NaN".toList
  | infinite (negative : Bool) : Spelling (sign negative ++ "Infinity".toList)
  | finite (negative : Bool) {t : Text} (isMagnitude : Magnitude t) :
      Spelling (sign negative ++ t)

/-- What comes after a value, if anything does: a comma or a new line. -/
def Follows (t : Text) : Prop := ∀ c ∈ t.head?, c = ',' ∨ c = '\n'

/-! ## Reading the parts -/

section Parts

variable {rest : Text}

/-- No digit comes first. -/
def NoDigit (t : Text) : Prop := ∀ c ∈ t.head?, c.isDigit = false

theorem digitsOf_append {ds : Text} (hds : Digits ds) (hrest : NoDigit rest) :
    digitsOf (ds ++ rest) = (ds, rest) := by
  have htake : rest.takeWhile Char.isDigit = [] ∧ rest.dropWhile Char.isDigit = rest := by
    cases rest with
    | nil => exact ⟨rfl, rfl⟩
    | cons c rest => simp [hrest c rfl]
  rw [digitsOf, List.takeWhile_append_of_pos hds, List.dropWhile_append_of_pos hds, htake.1,
    htake.2, List.append_nil]

theorem Follows.noDigit (h : Follows rest) : NoDigit rest := by
  intro c hc
  rcases h c hc with rfl | rfl <;> decide

theorem Exponent.noDigit {t : Text} (h : Exponent t) (hrest : NoDigit rest) :
    NoDigit (t ++ rest) := by
  cases h with
  | none => exact hrest
  | some mark_eq =>
      rintro c ⟨⟩
      rcases mark_eq with rfl | rfl <;> decide

theorem Exponent.noPoint {t : Text} (h : Exponent t) (hrest : Follows rest) :
    '.' ∉ (t ++ rest).head? := by
  cases h with
  | none =>
      intro hhead
      rcases hrest '.' hhead with h | h <;> exact absurd h (by decide)
  | some mark_eq =>
      rintro ⟨⟩
      rcases mark_eq with h | h <;> exact absurd h (by decide)

theorem Fraction.noDigit {t : Text} (h : Fraction t) (hrest : NoDigit rest) :
    NoDigit (t ++ rest) := by
  cases h with
  | none => exact hrest
  | some =>
      rintro c ⟨⟩
      decide

theorem fractionOf_append {t : Text} (h : Fraction t) (hrest : NoDigit rest)
    (hpoint : '.' ∉ rest.head?) : fractionOf (t ++ rest) = (t, rest) := by
  cases h with
  | none =>
      cases rest with
      | nil => rfl
      | cons c rest =>
          rw [List.nil_append, fractionOf]
          rintro d rest' ⟨⟩
          exact hpoint rfl
  | @some ds ne digits =>
      obtain ⟨d, ds, rfl⟩ := List.exists_cons_of_ne_nil ne
      have hread := digitsOf_append digits hrest
      rw [List.cons_append] at hread
      simp only [List.cons_append, fractionOf, digits d List.mem_cons_self, if_true, hread]

/-- The sign of an exponent is told by the character before the digits. -/
theorem exponentOf_append {t : Text} (h : Exponent t) (hrest : Follows rest) :
    exponentOf (t ++ rest) = (t, rest) := by
  cases h with
  | none =>
      cases rest with
      | nil => rfl
      | cons c rest =>
          have hmark : (c == 'e' || c == 'E') = false := by
            rcases hrest c rfl with rfl | rfl <;> decide
          simp [exponentOf, hmark]
  | @some mark sign ds mark_eq sign_eq ne digits =>
      have hmark : (mark == 'e' || mark == 'E') = true := by simpa using mark_eq
      have hread := digitsOf_append digits hrest.noDigit
      have hempty : ds.isEmpty = false := by simpa using ne
      have hsign : let first := (sign ++ (ds ++ rest)).take 1
          (if first == ['+'] || first == ['-'] then first else []) = sign := by
        rcases sign_eq with rfl | rfl | rfl
        · obtain ⟨d, ds, rfl⟩ := List.exists_cons_of_ne_nil ne
          have hd := digits d List.mem_cons_self
          have hplus : d ≠ '+' := by
            rintro rfl
            exact absurd hd (by decide)
          have hminus : d ≠ '-' := by
            rintro rfl
            exact absurd hd (by decide)
          simp [hplus, hminus]
        · rfl
        · rfl
      simp only at hsign
      simp only [exponentOf, List.cons_append, hmark, if_true, hsign, List.append_assoc,
        List.drop_left, hread, hempty]
      rfl

end Parts

/-! ## Numbers -/

section Numbers

variable {limit : Option Nat} {whole fraction exponent rest : Text}

/-- A whole part has no sign. -/
theorem Whole.head?_append (h : Whole whole) (t : Text) :
    ((whole ++ t).head? == some '-') = false := by
  obtain ⟨d, ds, rfl⟩ := List.exists_cons_of_ne_nil h.ne
  refine beq_eq_false_iff_ne.2 ?_
  rintro ⟨⟩
  exact absurd (h.digits '-' List.mem_cons_self) (by decide)

/-- A number is taken as it is spelled, as an integer if there is nothing but a whole part. -/
theorem number_append (negative : Bool) (hwhole : Whole whole) (hfraction : Fraction fraction)
    (hexponent : Exponent exponent) (hrest : Follows rest) :
    number limit (sign negative ++ (whole ++ (fraction ++ (exponent ++ rest)))) =
      if fraction.isEmpty && exponent.isEmpty then
        if limit.any (· < whole.length) then .error (.beyond .digits)
        else .ok (int (if negative then -(Double.digitsValue whole : Int)
          else Double.digitsValue whole), rest)
      else .ok (decimal (sign negative ++ (whole ++ fraction ++ exponent)), rest) := by
  have htail : NoDigit (exponent ++ rest) := hexponent.noDigit hrest.noDigit
  have hsign : (if (sign negative ++ (whole ++ (fraction ++ (exponent ++ rest)))).head? == some '-'
      then ['-'] else []) = sign negative := by
    cases negative with
    | false =>
        have hhead := hwhole.head?_append (fraction ++ (exponent ++ rest))
        simp only [sign, Bool.false_eq_true, if_false, List.nil_append, hhead]
    | true => rfl
  have hdigits := digitsOf_append hwhole.digits (hfraction.noDigit htail)
  have hzero : (if whole.head? == some '0' then
      (['0'], (whole ++ (fraction ++ (exponent ++ rest))).drop 1)
      else (whole, fraction ++ (exponent ++ rest))) = (whole, fraction ++ (exponent ++ rest)) := by
    split
    next h =>
      rw [hwhole.zero (eq_of_beq h)]
      rfl
    next => rfl
  have hempty : whole.isEmpty = false := by simpa using hwhole.ne
  have hnegative : (sign negative).isEmpty = !negative := by cases negative <;> rfl
  simp only [number, hsign, List.drop_left, hdigits, hzero, hempty, hnegative,
    fractionOf_append hfraction htail (hexponent.noPoint hrest), exponentOf_append hexponent hrest]
  cases negative <;> simp

/-- No word begins like a number. -/
theorem atom_number (negative : Bool) (h : Whole whole) (t : Text) :
    atom limit (sign negative ++ (whole ++ t)) = number limit (sign negative ++ (whole ++ t)) := by
  obtain ⟨d, ds, rfl⟩ := List.exists_cons_of_ne_nil h.ne
  have hd := h.digits d List.mem_cons_self
  have hother (c : Char) (hc : c.isDigit = false) : c ≠ d := by
    rintro rfl
    exact absurd hd (by simp [hc])
  have hnone : ∀ p ∈ wordValues, ¬p.1.isPrefixOf (sign negative ++ (d :: ds ++ t)) = true := by
    cases negative <;> simp [wordValues, sign, hother]
  rw [atom, List.find?_eq_none.2 hnone]

end Numbers

/-! ## Spellings -/

theorem head?_ofNat {n : Nat} (h : n ≠ 0) : (Text.ofNat n).head? ≠ some '0' := by
  induction n using Nat.strongRecOn with
  | ind n ih =>
      by_cases hn : n < 10
      · have hall : ∀ n < 10, n ≠ 0 → (Text.ofNat n).head? ≠ some '0' := by decide
        exact hall n hn h
      · rw [Text.ofNat, Nat.toDigits_of_base_le (by decide) (Nat.not_lt.1 hn),
          List.head?_append_of_ne_nil _ Nat.toDigits_ne_nil]
        exact ih (n / 10) (by omega) (by omega)

theorem whole_ofNat (n : Nat) : Whole (Text.ofNat n) where
  ne := Nat.toDigits_ne_nil
  digits := fun _ hc => Nat.isDigit_of_mem_toDigits (by decide) (by decide) hc
  zero hhead := by
    by_cases hn : n = 0
    · rw [hn]
      rfl
    · exact absurd hhead (head?_ofNat hn)

theorem digitsValue_ofNat (n : Nat) : Double.digitsValue (Text.ofNat n) = n := by
  have hfold : Double.digitsValue (Text.ofNat n) = Nat.ofDigitChars 10 (Text.ofNat n) 0 := by
    rw [Nat.ofDigitChars_eq_foldl, Double.digitsValue]
    exact List.foldl_ext _ _ _ fun m c hc => if_pos ((whole_ofNat n).digits c hc)
  rw [hfold, Text.ofNat, Nat.ofDigitChars_ten_toDigits]

section Atoms

variable {limit : Option Nat} {rest : Text}

theorem atom_ofNat (negative : Bool) {n : Nat}
    (hn : limit.any (· < (Text.ofNat n).length) = false) (hrest : Follows rest) :
    atom limit (sign negative ++ (Text.ofNat n ++ rest)) =
      .ok (int (if negative then -(n : Int) else n), rest) := by
  have hwhole := whole_ofNat n
  have hnumber : number limit (sign negative ++ (Text.ofNat n ++ ([] ++ ([] ++ rest)))) = _ :=
    number_append negative hwhole .none .none hrest
  rw [List.nil_append, List.nil_append, hn, digitsValue_ofNat] at hnumber
  rw [atom_number negative hwhole, hnumber]
  simp only [List.isEmpty_nil, Bool.and_self, if_true, Bool.false_eq_true, if_false]

/-- An integer is read as itself if it is not too long. -/
theorem atom_ofInt {n : Int} (hn : limit.any (· < (Text.ofNat n.natAbs).length) = false)
    (hrest : Follows rest) : atom limit (Text.ofInt n ++ rest) = .ok (int n, rest) := by
  cases n with
  | ofNat n => exact atom_ofNat false hn hrest
  | negSucc n => exact atom_ofNat true hn hrest

/-- The spelling of a decimal number is kept. -/
theorem Spelling.atom_append {t : Text} (h : Spelling t) (hrest : Follows rest) :
    atom limit (t ++ rest) = .ok (decimal t, rest) := by
  cases h with
  | notANumber => rfl
  | infinite negative => cases negative <;> rfl
  | finite negative isMagnitude =>
      obtain ⟨isWhole, isFraction, isExponent, ne⟩ := isMagnitude
      simp only [List.append_assoc]
      rw [atom_number negative isWhole, number_append negative isWhole isFraction isExponent hrest,
        ne]
      simp only [Bool.false_eq_true, if_false, List.append_assoc]

theorem Spelling.ne_nil {t : Text} (h : Spelling t) : t ≠ [] := by
  cases h with
  | notANumber => decide
  | infinite negative => cases negative <;> decide
  | finite negative isMagnitude =>
      obtain ⟨isWhole, -⟩ := isMagnitude
      simp [isWhole.ne]

theorem ofInt_ne_nil (n : Int) : Text.ofInt n ≠ [] := by
  cases n with
  | ofNat n => exact (whole_ofNat n).ne
  | negSucc n => exact List.cons_ne_nil _ _

/-! ## Characters -/

theorem sign_ascii (negative : Bool) : ∀ c ∈ sign negative, c.toNat < 0x80 := by
  cases negative <;> simp [sign]

theorem Digits.ascii {ds : Text} (h : Digits ds) : ∀ c ∈ ds, c.toNat < 0x80 := by
  intro c hc
  have hdigit := h c hc
  simp only [Char.isDigit, Bool.and_eq_true, decide_eq_true_eq, UInt32.le_iff_toNat_le] at hdigit
  exact Nat.lt_of_le_of_lt hdigit.2 (by decide)

theorem ofInt_ascii (n : Int) : ∀ c ∈ Text.ofInt n, c.toNat < 0x80 := by
  cases n with
  | ofNat n => exact (whole_ofNat n).digits.ascii
  | negSucc n => exact List.forall_mem_cons.2 ⟨by decide, (whole_ofNat (n + 1)).digits.ascii⟩

theorem Spelling.ascii {t : Text} (h : Spelling t) : ∀ c ∈ t, c.toNat < 0x80 := by
  cases h with
  | notANumber => simp
  | infinite negative => cases negative <;> simp [sign]
  | finite negative isMagnitude =>
      obtain ⟨isWhole, isFraction, isExponent, -⟩ := isMagnitude
      simp only [List.forall_mem_append]
      refine ⟨sign_ascii negative, ⟨isWhole.digits.ascii, ?_⟩, ?_⟩
      · cases isFraction with
        | none => nofun
        | some _ digits => exact List.forall_mem_cons.2 ⟨by decide, digits.ascii⟩
      · cases isExponent with
        | none => nofun
        | some mark_eq sign_eq _ digits =>
            rw [List.forall_mem_cons, List.forall_mem_append]
            refine ⟨?_, ?_, digits.ascii⟩
            · rcases mark_eq with rfl | rfl <;> decide
            · rcases sign_eq with rfl | rfl | rfl <;> simp

end Atoms

end Json
end CodeSurvey
