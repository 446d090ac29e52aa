import CodeSurvey.Json.Parser
import CodeSurvey.Json.Printer

/-!
# Strings that are written and read back

A character is written as itself, as a letter after a backslash or as one or two units of four
hexadecimal digits. The reader looks at two units at once, so it must be known what stands after
the first: it is whole again, since the characters after it are written in the same way.

## Main definitions

* `Json.Encoding c t`: the ways in which a character is written.
-/

namespace CodeSurvey

/-! ## Hexadecimal digits -/

namespace Text

theorem hexValue?_digitChar {n : Nat} (h : n < 16) : hexValue? n.digitChar = some n := by
  have hall : ∀ n < 16, hexValue? n.digitChar = some n := by decide
  exact hall n h

theorem toNat_digitChar_lt {n : Nat} (h : n < 16) : n.digitChar.toNat < 0x80 := by
  have hall : ∀ n < 16, n.digitChar.toNat < 0x80 := by decide
  exact hall n h

theorem hexadecimal_one {n : Nat} (h : n < 16) : hexadecimal 1 n = [n.digitChar] := by
  rw [hexadecimal, Nat.toDigits_of_lt_base h]
  rfl

theorem hexadecimal_succ (width n : Nat) :
    hexadecimal (width + 2) n = hexadecimal (width + 1) (n / 16) ++ [(n % 16).digitChar] := by
  simp only [hexadecimal]
  by_cases h : n < 16
  · rw [Nat.toDigits_of_lt_base h, Nat.div_eq_of_lt h, Nat.mod_eq_of_lt h, Nat.toDigits_zero]
    simp [List.replicate_succ']
  · rw [Nat.toDigits_of_base_le (by decide) (Nat.not_lt.1 h)]
    simp

end Text

namespace Json

/-! ## Writing -/

/-- A unit is written with four digits that spell it. -/
theorem encodeUnit_eq {n : Nat} (h : n < 0x10000) :
    ∃ a b c d, encodeUnit n = ['\\', 'u', a, b, c, d] ∧ unit? a b c d = some n ∧
      ∀ x ∈ encodeUnit n, x.toNat < 0x80 := by
  have hfirst : n / 16 / 16 / 16 < 16 := by omega
  have hmod (m : Nat) : m % 16 < 16 := Nat.mod_lt m (by decide)
  have hdigits : encodeUnit n = ['\\', 'u', (n / 16 / 16 / 16).digitChar,
      (n / 16 / 16 % 16).digitChar, (n / 16 % 16).digitChar, (n % 16).digitChar] := by
    rw [encodeUnit, Text.hexadecimal_succ, Text.hexadecimal_succ, Text.hexadecimal_succ,
      Text.hexadecimal_one hfirst]
    rfl
  refine ⟨_, _, _, _, hdigits, ?_, ?_⟩
  · simp only [unit?, Text.hexValue?_digitChar hfirst, Text.hexValue?_digitChar (hmod _),
      Option.bind_eq_bind, Option.bind_some, Option.pure_def, Option.some.injEq]
    omega
  · rw [hdigits]
    simp only [List.forall_mem_cons]
    exact ⟨by decide, by decide, Text.toNat_digitChar_lt hfirst, Text.toNat_digitChar_lt (hmod _),
      Text.toNat_digitChar_lt (hmod _), Text.toNat_digitChar_lt (hmod _), nofun⟩

/-- The first unit of a surrogate pair. -/
def highHalf (c : Char) : Nat := 0xD800 + (c.toNat - 0x10000) / 0x400

/-- The second unit of a surrogate pair. -/
def lowHalf (c : Char) : Nat := 0xDC00 + (c.toNat - 0x10000) % 0x400

/-- No character is half of a surrogate pair. -/
theorem toNat_char (c : Char) : c.toNat < 0xD800 ∨ 0xE000 ≤ c.toNat ∧ c.toNat < 0x110000 := by
  rcases c.valid with h | ⟨hlow, hhigh⟩
  · exact .inl h
  · exact .inr ⟨hlow, hhigh⟩

theorem isHigh_highHalf (c : Char) : isHigh (highHalf c) = true := by
  have hrange := toNat_char c
  rw [isHigh, Bool.and_eq_true, decide_eq_true_eq, decide_eq_true_eq, highHalf]
  omega

theorem isLow_lowHalf (c : Char) : isLow (lowHalf c) = true := by
  rw [isLow, Bool.and_eq_true, decide_eq_true_eq, decide_eq_true_eq, lowHalf]
  omega

theorem ofPair_halves {c : Char} (h : 0x10000 ≤ c.toNat) : ofPair (highHalf c) (lowHalf c) = c := by
  have hcode : 0x10000 + (highHalf c - 0xD800) * 0x400 + (lowHalf c - 0xDC00) = c.toNat := by
    rw [highHalf, lowHalf]
    omega
  rw [ofPair, hcode, Char.ofNat_toNat]

theorem halves_lt (c : Char) : highHalf c < 0x10000 ∧ lowHalf c < 0x10000 := by
  have hhigh := isHigh_highHalf c
  have hlow := isLow_lowHalf c
  simp only [isHigh, isLow, Bool.and_eq_true, decide_eq_true_eq] at hhigh hlow
  omega

/-- A character of one unit is that of its unit, which is no first half. -/
theorem ofUnit_toNat (c : Char) : ofUnit c.toNat = c ∧ isHigh c.toNat = false := by
  have hrange := toNat_char c
  constructor
  · rw [ofUnit, if_neg, Char.ofNat_toNat]
    simp only [Bool.and_eq_true, decide_eq_true_eq]
    omega
  · simp only [isHigh, Bool.and_eq_false_iff, decide_eq_false_iff_not]
    omega

/-- The ways in which a character is written. -/
inductive Encoding (c : Char) : Text → Prop
  | letter {d : Char} (ne : d ≠ 'u') (ascii : d.toNat < 0x80) (escape : escape? d = some c) :
      Encoding c ['\\', d]
  | self (quote : c ≠ '"') (backslash : c ≠ '\\') (low : 0x20 ≤ c.toNat) (high : c.toNat < 0x7F) :
      Encoding c [c]
  | unit (high : c.toNat < 0x10000) : Encoding c (encodeUnit c.toNat)
  | pair (low : 0x10000 ≤ c.toNat) :
      Encoding c (encodeUnit (highHalf c) ++ encodeUnit (lowHalf c))

/-- One of the characters that are written as a letter. -/
theorem Encoding.ite {c d letter : Char} {t : Text} (ne : letter ≠ 'u')
    (ascii : letter.toNat < 0x80) (escape : escape? letter = some d) (h : c ≠ d → Encoding c t) :
    Encoding c (if c == d then ['\\', letter] else t) := by
  split
  next heq => exact .letter ne ascii (by rw [eq_of_beq heq, escape])
  next hne => exact h (by simpa using hne)

theorem encoding_encodeChar (c : Char) : Encoding c (encodeChar c) := by
  refine .ite (by decide) (by decide) rfl fun hquote => ?_
  refine .ite (by decide) (by decide) rfl fun hbackslash => ?_
  refine .ite (by decide) (by decide) rfl fun _ => ?_
  refine .ite (by decide) (by decide) rfl fun _ => ?_
  refine .ite (by decide) (by decide) rfl fun _ => ?_
  refine .ite (by decide) (by decide) rfl fun _ => ?_
  refine .ite (by decide) (by decide) rfl fun _ => ?_
  simp only
  split
  next hself =>
    rw [Bool.and_eq_true, decide_eq_true_eq, decide_eq_true_eq] at hself
    exact .self hquote hbackslash hself.1 hself.2
  next =>
    split
    next hunit => exact .unit hunit
    next hpair => exact .pair (Nat.not_lt.1 hpair)

/-- What has no unit of its own takes two. -/
theorem encodeChar_of_le {c : Char} (h : 0x10000 ≤ c.toNat) :
    encodeChar c = encodeUnit (highHalf c) ++ encodeUnit (lowHalf c) := by
  have hother (d : Char) (hd : d.toNat < 0x10000) : (c == d) = false := by
    refine beq_eq_false_iff_ne.2 ?_
    rintro rfl
    exact Nat.not_lt.2 h hd
  have hself : ¬c.toNat < 0x7F := by omega
  simp [encodeChar, hother, hself, Nat.not_lt.2 h, highHalf, lowHalf]

theorem Encoding.ascii {c : Char} {t : Text} (h : Encoding c t) : ∀ x ∈ t, x.toNat < 0x80 := by
  have hunit {n : Nat} (h : n < 0x10000) : ∀ x ∈ encodeUnit n, x.toNat < 0x80 := by
    obtain ⟨_, _, _, _, -, -, hascii⟩ := encodeUnit_eq h
    exact hascii
  cases h with
  | letter _ ascii => simpa using ascii
  | self _ _ _ high => simpa using Nat.lt_succ_of_lt high
  | unit high => exact hunit high
  | pair _ =>
      rw [List.forall_mem_append]
      exact ⟨hunit (halves_lt c).1, hunit (halves_lt c).2⟩

/-- Strings are written in ASCII. -/
theorem encode_ascii (t : Text) : ∀ x ∈ encode t, x.toNat < 0x80 := by
  intro x hx
  simp only [encode, List.mem_cons, List.mem_append, List.mem_flatMap, List.not_mem_nil,
    or_false] at hx
  rcases hx with rfl | ⟨c, -, hx⟩ | rfl
  · decide
  · exact (encoding_encodeChar c).ascii x hx
  · decide

/-! ## Reading -/

/-- If a unit comes first, its digits are good. -/
def Ready (t : Text) : Prop :=
  ∀ a b c d rest, t = '\\' :: 'u' :: a :: b :: c :: d :: rest → (unit? a b c d).isSome = true

section Reading

variable {done rest : Text}

/-- A unit that is no first half of a pair stands for itself. -/
theorem stringFrom_unit {a b c d : Char} {n : Nat} (hn : unit? a b c d = some n)
    (hhigh : isHigh n = false) (hrest : Ready rest) :
    stringFrom done ('\\' :: 'u' :: a :: b :: c :: d :: rest) =
      stringFrom (ofUnit n :: done) rest := by
  by_cases hnext : ∃ e f g h rest', rest = '\\' :: 'u' :: e :: f :: g :: h :: rest'
  · obtain ⟨e, f, g, h, rest', rfl⟩ := hnext
    obtain ⟨low, hlow⟩ := Option.isSome_iff_exists.1 (hrest e f g h rest' rfl)
    rw [stringFrom]
    simp [hn, hlow, hhigh]
  · rw [stringFrom, hn]
    exact fun e f g h rest' heq => hnext ⟨e, f, g, h, rest', heq⟩

/-- However a character is written, it is read. -/
theorem Encoding.stringFrom_append {c : Char} {t : Text} (h : Encoding c t) (hrest : Ready rest) :
    stringFrom done (t ++ rest) = stringFrom (c :: done) rest := by
  cases h with
  | @letter d ne _ escape =>
      rw [List.cons_append, List.cons_append, List.nil_append, stringFrom, escape]
      · exact fun _ _ _ _ _ _ _ _ _ h => absurd h ne
      · exact fun _ _ _ _ _ h => absurd h ne
  | self quote backslash low high =>
      have hcontrol : (decide (c.toNat < 0x20) || c == '\\') = false := by
        simpa using ⟨low, backslash⟩
      rw [List.cons_append, List.nil_append, stringFrom, hcontrol]
      · rfl
      · exact quote
      · exact fun _ _ _ _ _ _ _ _ _ h => absurd h backslash
      · exact fun _ _ _ _ _ h => absurd h backslash
      · exact fun _ _ h => absurd h backslash
  | unit high =>
      obtain ⟨hchar, hhigh⟩ := ofUnit_toNat c
      obtain ⟨x, y, z, w, henc, hunit, -⟩ := encodeUnit_eq high
      have hread : stringFrom done ('\\' :: 'u' :: x :: y :: z :: w :: rest) = _ :=
        stringFrom_unit hunit hhigh hrest
      rw [hchar] at hread
      rw [henc]
      exact hread
  | pair low =>
      obtain ⟨x, y, z, w, henc, hunit, -⟩ := encodeUnit_eq (halves_lt c).1
      obtain ⟨x', y', z', w', henc', hunit', -⟩ := encodeUnit_eq (halves_lt c).2
      rw [henc, henc']
      simp only [List.cons_append, List.nil_append]
      rw [stringFrom, hunit, hunit']
      simp only [isHigh_highHalf, isLow_lowHalf, Bool.and_self, if_true, ofPair_halves low]

/-- Whatever comes after a character, its digits are good. -/
theorem Encoding.ready {c : Char} {t : Text} (h : Encoding c t) : Ready (t ++ rest) := by
  have hunit {n : Nat} (hn : n < 0x10000) (t : Text) : Ready (encodeUnit n ++ t) := by
    obtain ⟨x, y, z, w, henc, hunit, -⟩ := encodeUnit_eq hn
    rintro a b c d rest' heq
    rw [henc] at heq
    obtain ⟨rfl, rfl, rfl, rfl, -⟩ : x = a ∧ y = b ∧ z = c ∧ w = d ∧ t = rest' := by
      simpa using heq
    rw [hunit]
    rfl
  cases h with
  | letter ne => exact fun a b c d rest' heq => absurd (List.cons.inj (List.cons.inj heq).2).1 ne
  | self _ backslash => exact fun a b c d rest' heq => absurd (List.cons.inj heq).1 backslash
  | unit high => exact hunit high rest
  | pair _ =>
      rw [List.append_assoc]
      exact hunit (halves_lt c).1 _

theorem ready_quote : Ready ('"' :: rest) :=
  fun _ _ _ _ _ heq => absurd (List.cons.inj heq).1 (by decide)

/-- A string is read as the text that was written, and nothing after it is touched. -/
theorem stringFrom_flatMap (t : Text) :
    stringFrom done (t.flatMap encodeChar ++ '"' :: rest) = .ok (done.reverse ++ t, rest) := by
  induction t generalizing done with
  | nil => simp [stringFrom]
  | cons c t ih =>
      have hready : Ready (t.flatMap encodeChar ++ '"' :: rest) := by
        cases t with
        | nil => exact ready_quote
        | cons d t =>
            rw [List.flatMap_cons, List.append_assoc]
            exact (encoding_encodeChar d).ready
      rw [List.flatMap_cons, List.append_assoc, (encoding_encodeChar c).stringFrom_append hready,
        ih]
      simp

example : encode "😀\n".toList = "\"\\ud83d\\ude00\\n\"".toList := by decide

end Reading
end Json
end CodeSurvey
