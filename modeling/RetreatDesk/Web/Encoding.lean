import RetreatDesk.Text.Utf8
import RetreatDesk.Json.Lexeme

/-!
# Encoded texts in addresses

* `unescape`: bytes written as a percent sign and two digits are put back; anything else stays.
* `segmentText?`: the text of a part of a path.
* `formFields`: the names and values of a query.
* `fromPath`: an address without the scheme and the host at its front.
-/

namespace RetreatDesk.Web

/-- The value of a byte that is a digit in base sixteen. -/
def hexByte? (b : UInt8) : Option Nat := Lexeme.hexValue? (Char.ofNat b.toNat)

/-- The bytes with escapes put back. A percent sign without two digits after it stands for itself. -/
def unescape : List UInt8 → List UInt8
  | [] => []
  | b :: rest =>
    if b = 0x25 then
      match rest with
      | h :: l :: rest =>
        match hexByte? h, hexByte? l with
        | some high, some low => UInt8.ofNat (high * 16 + low) :: unescape rest
        | _, _ => b :: unescape (h :: l :: rest)
      | rest => b :: unescape rest
    else b :: unescape rest

/-- The text of a part of a path. -/
def segmentText? (s : String) : Option String := Utf8.text? (unescape (Utf8.bytes s))

/-- The text of a name or a value in a query: a plus sign is a blank. -/
def formText (s : String) : String :=
  Utf8.textWithGaps (unescape ((Utf8.bytes s).map fun b => if b = 0x2b then 0x20 else b))

/-- The parts of a text between marks. -/
def parts (mark : Char) (s : String) : List String := (s.toList.splitOn mark).map String.ofList

/-- The characters up to a mark, and those after it. -/
def cut (mark : Char) (s : String) : String × Option String :=
  let cs := s.toList
  let before := cs.takeWhile (· ≠ mark)
  match cs.dropWhile (· ≠ mark) with
  | [] => (s, none)
  | _ :: after => (String.ofList before, some (String.ofList after))

/-- Whether a character may stand in a scheme. -/
def isSchemeChar (c : Char) : Bool := c.isAlphanum || c = '+' || c = '-' || c = '.'

/-- The part of an address that starts at the path. An address in full has a scheme and a host before it. -/
def fromPath (address : String) : String :=
  match address.toList.dropWhile isSchemeChar with
  | ':' :: '/' :: '/' :: rest => String.ofList (rest.dropWhile fun c => c ≠ '/' && c ≠ '?' && c ≠ '#')
  | _ => address

/-- The names and values of a query, in order. Empty parts count for nothing. -/
def formFields (query : String) : List (String × String) :=
  (parts '&' query).filterMap fun part =>
    if part.isEmpty then none
    else
      let (name, value) := cut '=' part
      some (formText name, formText (value.getD ""))

end RetreatDesk.Web
