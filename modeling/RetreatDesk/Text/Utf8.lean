/-!
# UTF-8

* `Utf8.decode`: the characters that bytes stand for, and a gap wherever they stand for none.
* `Utf8.text?`: the text of bytes without gaps.
* `Utf8.textWithGaps`: the text of any bytes, every gap shown by the replacement character.
-/

namespace RetreatDesk.Utf8

/-- The six payload bits of a byte in second or later place. -/
def tail (b : UInt8) : Nat := b.toNat % 0x40

/-- The bytes that may follow a first byte, as a closed range, and how many bytes there are after it. -/
def follow? (b : Nat) : Option (Nat × Nat × Nat) :=
  if 0xc2 ≤ b ∧ b ≤ 0xdf then some (0x80, 0xbf, 1)
  else if b = 0xe0 then some (0xa0, 0xbf, 2)
  else if b = 0xed then some (0x80, 0x9f, 2)
  else if 0xe1 ≤ b ∧ b ≤ 0xef then some (0x80, 0xbf, 2)
  else if b = 0xf0 then some (0x90, 0xbf, 3)
  else if b = 0xf4 then some (0x80, 0x8f, 3)
  else if 0xf1 ≤ b ∧ b ≤ 0xf3 then some (0x80, 0xbf, 3)
  else none

/-- The payload bits of a first byte with so many bytes after it. -/
def lead (b count : Nat) : Nat :=
  match count with
  | 1 => b % 0x20
  | 2 => b % 0x10
  | _ => b % 0x08

/-- The bytes still due, each within a range of its own, added to the payload so far. The count tells how
many bytes were taken before one did not fit. -/
def takeTail (low high value : Nat) : Nat → List UInt8 → Option Nat × Nat
  | 0, _ => (some value, 0)
  | _ + 1, [] => (none, 0)
  | due + 1, b :: rest =>
    if low ≤ b.toNat ∧ b.toNat ≤ high then
      let (result, taken) := takeTail 0x80 0xbf (value * 0x40 + tail b) due rest
      (result, taken + 1)
    else (none, 0)

/-- The characters of at most `fuel` bytes, and `none` for each run of bytes that starts no character or
breaks one off. -/
def decodeWithin : Nat → List UInt8 → List (Option Char)
  | 0, _ => []
  | _, [] => []
  | fuel + 1, b :: rest =>
    if b.toNat < 0x80 then some (Char.ofNat b.toNat) :: decodeWithin fuel rest
    else
      match follow? b.toNat with
      | none => none :: decodeWithin fuel rest
      | some (low, high, count) =>
        let (value, taken) := takeTail low high (lead b.toNat count) count rest
        value.map Char.ofNat :: decodeWithin fuel (rest.drop taken)

/-- The characters that bytes stand for, and a gap wherever they stand for none. -/
def decode (bytes : List UInt8) : List (Option Char) := decodeWithin bytes.length bytes

/-- The text of bytes, if all of them stand for characters. -/
def text? (bytes : List UInt8) : Option String :=
  ((decode bytes).mapM id).map String.ofList

/-- The text of bytes, every gap shown by the replacement character. -/
def textWithGaps (bytes : List UInt8) : String :=
  String.ofList ((decode bytes).map fun c => c.getD (Char.ofNat 0xfffd))

/-- The bytes of a text. -/
def bytes (s : String) : List UInt8 := s.toUTF8.toList

end RetreatDesk.Utf8
