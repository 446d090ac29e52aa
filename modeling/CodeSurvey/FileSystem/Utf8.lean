import CodeSurvey.Text.Quoted

/-!
# UTF-8

Bytes that are no UTF-8 are described by where they go wrong first: at a byte that begins no
character, at a byte that should continue one and does not, or at the end of the bytes.

## Main definitions

* `Utf8.decode? bytes`: the text that the bytes encode.
* `Utf8.fault? bytes`: what is wrong with bytes that encode no text.
-/

namespace CodeSurvey
namespace Utf8

/-- The text that the bytes encode. -/
def decode? (bytes : ByteArray) : Option Text := (String.fromUTF8? bytes).map String.toList

/-- The bytes of a text. -/
def encode (t : Text) : ByteArray := (String.ofList t).toUTF8

theorem encode_nil : encode [] = ByteArray.empty := by simp [encode]

theorem encode_append (s t : Text) : encode (s ++ t) = encode s ++ encode t := by simp [encode]

/-- A text is read from exactly its own bytes. -/
theorem encode_of_decode? {bytes : ByteArray} {t : Text} (h : decode? bytes = some t) :
    encode t = bytes := by
  obtain ⟨s, hs, rfl⟩ := Option.map_eq_some_iff.1 h
  unfold String.fromUTF8? at hs
  split at hs
  · simp only [Option.some.injEq] at hs
    subst hs
    simp only [encode, String.ofList_toList]
    rfl
  · simp at hs

theorem decode?_encode (t : Text) : decode? (encode t) = some t := by
  have hvalid : (String.ofList t).toUTF8.IsValidUTF8 := (String.ofList t).isValidUTF8
  rw [decode?, encode, String.fromUTF8?, dif_pos hvalid, Option.map_some]
  exact congrArg some String.toList_ofList

theorem decode?_eq_some_iff {bytes : ByteArray} {t : Text} :
    decode? bytes = some t ↔ encode t = bytes := by
  constructor
  · exact encode_of_decode?
  · rintro rfl
    exact decode?_encode t

/-! ## Faults -/

/-- The first fault of some bytes: the offsets of its first byte and after its last, and what it
is. -/
structure Fault where
  first : Nat
  stop : Nat
  reason : Text
deriving Repr, DecidableEq

/-- Whether a byte can continue a character. -/
def continues (b : UInt8) : Bool := 0x80 ≤ b && b < 0xC0

/-- Whether a second byte can follow a first one: some would spell a character in more bytes than it
needs, a surrogate, or nothing at all. -/
def secondFits (first second : UInt8) : Bool :=
  continues second &&
    (first != 0xE0 || 0xA0 ≤ second) && (first != 0xED || second < 0xA0) &&
    (first != 0xF0 || 0x90 ≤ second) && (first != 0xF4 || second < 0x90)

/-- The number of bytes that a first byte announces. -/
def width (first : UInt8) : Nat :=
  if first < 0x80 then 1
  else if first < 0xC2 then 0
  else if first < 0xE0 then 2
  else if first < 0xF0 then 3
  else if first < 0xF5 then 4
  else 0

/-- The number of bytes after the first that fit, up to the given number. -/
def fitting (first : UInt8) (wanted : Nat) (rest : List UInt8) : Nat :=
  match rest.take wanted with
  | [] => 0
  | second :: more => if secondFits first second then 1 + (more.takeWhile continues).length else 0

/-- The first fault at or after an offset; the next `skip` bytes belong to a character already
read. -/
def faultFrom (skip offset : Nat) : List UInt8 → Option Fault
  | [] => none
  | first :: rest =>
    match skip with
    | skip + 1 => faultFrom skip (offset + 1) rest
    | 0 =>
      let wanted := width first - 1
      let found := fitting first wanted rest
      if width first = 0 then some ⟨offset, offset + 1, "invalid start byte"⟩
      else if found = wanted then faultFrom wanted (offset + 1) rest
      else if rest.length = found then some ⟨offset, offset + 1 + found, "unexpected end of data"⟩
      else some ⟨offset, offset + 1 + found, "invalid continuation byte"⟩

/-- The first fault of some bytes. -/
def fault? (bytes : ByteArray) : Option Fault := faultFrom 0 0 bytes.data.toList

/-- The message of a fault. -/
def Fault.message (bytes : ByteArray) (f : Fault) : Text :=
  let place :=
    if f.stop = f.first + 1 then
      "byte 0x".toList ++ Text.hexadecimal 2 (bytes.data.toList[f.first]?.getD 0).toNat ++
        " in position ".toList ++ Text.ofNat f.first
    else
      "bytes in position ".toList ++ Text.ofNat f.first ++ '-' :: Text.ofNat (f.stop - 1)
  "'utf-8' codec can't decode ".toList ++ place ++ ": ".toList ++ f.reason

end Utf8
end CodeSurvey
