/-!
# Texts

A text is a list of code points, so that offsets, lengths and orders all count the same units.
Cutting a text at separators never loses a character: the separators can be put back.

## Main definitions

* `splitWhere p t`: the pieces of `t` between the characters that satisfy `p`.
* `lines t`: the pieces of `t` between newlines; a text always has at least one line.
* `occursIn needle t`: whether `needle` is a contiguous part of `t`.
* `le s t`, `sort ts`: the order of code points.
* `upTo n xs`: the first `n` items, where a negative `n` counts from the end.
-/

namespace CodeSurvey

/-- A text as the list of its code points. -/
abbrev Text := List Char

/-- String literals stand for the texts they spell. -/
instance : Coe String Text := ⟨String.toList⟩

namespace Text

/-! ## Cutting and joining -/

/-- The pieces between the characters that satisfy `p`. Neighbouring separators have an empty
piece between them. -/
def splitWhere (p : Char → Bool) (t : Text) : List Text :=
  t.foldr (fun c pieces =>
    if p c then [] :: pieces
    else match pieces with
      | [] => [[c]]
      | piece :: rest => (c :: piece) :: rest) [[]]

@[simp] theorem splitWhere_nil (p : Char → Bool) : splitWhere p [] = [[]] := rfl

theorem splitWhere_cons_of_pos {p : Char → Bool} {c : Char} (h : p c = true) (t : Text) :
    splitWhere p (c :: t) = [] :: splitWhere p t := by simp [splitWhere, h]

theorem splitWhere_ne_nil (p : Char → Bool) (t : Text) : splitWhere p t ≠ [] := by
  cases t with
  | nil => simp
  | cons c t =>
    simp only [splitWhere, List.foldr_cons]
    split
    · simp
    · split <;> simp

theorem splitWhere_cons_of_neg {p : Char → Bool} {c : Char} (h : p c = false) (t : Text) :
    splitWhere p (c :: t) =
      (c :: (splitWhere p t).headD []) :: (splitWhere p t).tail := by
  have hne := splitWhere_ne_nil p t
  simp only [splitWhere, List.foldr_cons, h, Bool.false_eq_true, if_false] at hne ⊢
  split
  · contradiction
  · simp_all

/-- The pieces between the occurrences of one separator. -/
def splitOn (separator : Char) (t : Text) : List Text := splitWhere (· == separator) t

/-- Lines are separated by newlines alone; a carriage return belongs to its line. -/
def lines (t : Text) : List Text := splitOn '\n' t

theorem splitOn_ne_nil (separator : Char) (t : Text) : splitOn separator t ≠ [] :=
  splitWhere_ne_nil _ t

theorem lines_ne_nil (t : Text) : lines t ≠ [] := splitOn_ne_nil _ t

/-- The pieces with the separator between neighbours. -/
def joinWith (separator : Text) (pieces : List Text) : Text := List.intercalate separator pieces

/-- Lines joined by newlines. -/
def unlines (ls : List Text) : Text := joinWith ['\n'] ls

/-- Putting the separators back gives the text that was cut. -/
theorem joinWith_splitOn (separator : Char) (t : Text) :
    joinWith [separator] (splitOn separator t) = t := by
  induction t with
  | nil => rfl
  | cons c t ih =>
    by_cases h : c = separator
    · subst h
      rw [splitOn, splitWhere_cons_of_pos (by simp), ← splitOn]
      cases hs : splitOn c t with
      | nil => exact absurd hs (splitOn_ne_nil c t)
      | cons a l => rw [hs] at ih; simpa [joinWith, List.intercalate_cons_cons] using ih
    · rw [splitOn, splitWhere_cons_of_neg (by simpa using h), ← splitOn]
      cases hs : splitOn separator t with
      | nil => exact absurd hs (splitOn_ne_nil separator t)
      | cons a l =>
        rw [hs] at ih
        cases l with
        | nil => simpa [joinWith] using ih
        | cons b l => simpa [joinWith, List.intercalate_cons_cons] using ih

/-- The lines of a text, joined again, are the text. -/
@[simp] theorem unlines_lines (t : Text) : unlines (lines t) = t := joinWith_splitOn '\n' t

/-! ## Search and order -/

/-- Whether `needle` is a contiguous part of the text. -/
def occursIn (needle : Text) : Text → Bool
  | [] => needle.isEmpty
  | c :: rest => needle.isPrefixOf (c :: rest) || occursIn needle rest

theorem occursIn_iff {needle t : Text} : occursIn needle t = true ↔ needle <:+: t := by
  induction t with
  | nil => simp [occursIn, List.infix_nil]
  | cons c t ih => simp [occursIn, List.infix_cons_iff, ih]

/-- Order by code points, the shorter of two texts with a common beginning first. -/
def le : Text → Text → Bool
  | [], _ => true
  | _ :: _, [] => false
  | a :: s, b :: t => if a = b then le s t else decide (a.toNat < b.toNat)

theorem le_total (s t : Text) : le s t = true ∨ le t s = true := by
  induction s generalizing t with
  | nil => exact .inl rfl
  | cons a s ih =>
    cases t with
    | nil => exact .inr rfl
    | cons b t =>
      by_cases h : a = b
      · simpa [le, h] using ih t
      · have hne : a.toNat ≠ b.toNat := fun heq => h (Char.toNat_inj.1 heq)
        simp only [le, h, Ne.symm h, if_false, decide_eq_true_eq]
        omega

theorem le_trans {s t u : Text} (hst : le s t = true) (htu : le t u = true) : le s u = true := by
  induction s generalizing t u with
  | nil => rfl
  | cons a s ih =>
    cases t with
    | nil => simp [le] at hst
    | cons b t =>
      cases u with
      | nil => simp [le] at htu
      | cons c u =>
        simp only [le] at hst htu ⊢
        grind

theorem le_antisymm {s t : Text} (hst : le s t = true) (hts : le t s = true) : s = t := by
  induction s generalizing t with
  | nil =>
    cases t with
    | nil => rfl
    | cons b t => simp [le] at hts
  | cons a s ih =>
    cases t with
    | nil => simp [le] at hst
    | cons b t =>
      by_cases h : a = b
      · subst h
        rw [ih (by simpa [le] using hst) (by simpa [le] using hts)]
      · simp only [le, h, Ne.symm h, if_false, decide_eq_true_eq] at hst hts
        omega

/-- Sorting by code points. -/
def sort (ts : List Text) : List Text := ts.mergeSort le

/-! ## Numbers and limits -/

/-- A natural number in decimal digits. -/
def ofNat (n : Nat) : Text := Nat.toDigits 10 n

/-- A natural number with zeros in front up to a width. -/
def padded (width n : Nat) : Text :=
  let ds := ofNat n
  List.replicate (width - ds.length) '0' ++ ds

/-- An integer in decimal digits, with a sign when it is negative. -/
def ofInt : Int → Text
  | .ofNat n => ofNat n
  | .negSucc n => '-' :: ofNat (n + 1)

/-- The first `n` items; a negative limit drops that many items from the end instead. -/
def upTo {α : Type} : Int → List α → List α
  | .ofNat n, xs => xs.take n
  | .negSucc n, xs => xs.take (xs.length - (n + 1))

@[simp] theorem upTo_natCast {α : Type} (n : Nat) (xs : List α) :
    upTo (n : Int) xs = xs.take n := rfl

theorem upTo_of_length_le {α : Type} {n : Int} {xs : List α} (h : (xs.length : Int) ≤ n) :
    upTo n xs = xs := by
  obtain ⟨n, rfl⟩ := Int.eq_ofNat_of_zero_le (by omega : 0 ≤ n)
  exact List.take_of_length_le (by omega)

theorem upTo_sublist {α : Type} (n : Int) (xs : List α) : (upTo n xs).Sublist xs := by
  cases n <;> exact List.take_sublist _ _

end Text
end CodeSurvey
