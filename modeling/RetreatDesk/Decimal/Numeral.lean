import RetreatDesk.Decimal.Binary

/-!
# Numerals

* `digitsValue`: the value of a string of digits.
* `natural?`: the number written as digits, perhaps after a plus sign.
* `numeral?`: the number written as an optional sign, digits with an optional point, and an optional
  exponent; or as one of the words for an infinity or for no number.
-/

namespace RetreatDesk.Decimal

def digitValue (c : Char) : Nat := c.toNat - '0'.toNat

/-- The value of a string of digits. -/
def digitsValue (ds : List Char) : Nat := ds.foldl (fun n c => 10 * n + digitValue c) 0

/-- The number written as digits, perhaps after a plus sign. -/
def natural? (cs : List Char) : Option Nat :=
  let ds := match cs with
    | '+' :: rest => rest
    | cs => cs
  if ds.isEmpty || !ds.all Char.isDigit then none else some (digitsValue ds)

/-- The digits at the front, and the rest. -/
def spanDigits (cs : List Char) : List Char × List Char :=
  (cs.takeWhile Char.isDigit, cs.dropWhile Char.isDigit)

/-- An optional sign at the front: whether it is a minus, and the rest. -/
def spanSign : List Char → Bool × List Char
  | '-' :: rest => (true, rest)
  | '+' :: rest => (false, rest)
  | rest => (false, rest)

/-- A whole text that is an exponent: nothing, or `e`, an optional sign and at least one digit. -/
def exponent? : List Char → Option Int
  | [] => some 0
  | c :: rest =>
    if c = 'e' ∨ c = 'E' then
      let (negative, rest) := spanSign rest
      let (ds, rest) := spanDigits rest
      if ds.isEmpty || !rest.isEmpty then none
      else some (if negative then -(digitsValue ds : Int) else digitsValue ds)
    else none

/-- A whole text that is a number without a sign. -/
def unsigned? (negative : Bool) (cs : List Char) : Option Float :=
  let word := cs.map Char.toLower
  if word = "inf".toList ∨ word = "infinity".toList then some (ofDecimal negative 1 1000)
  else if word = "nan".toList then some (0.0 / 0.0)
  else
    let (whole, rest) := spanDigits cs
    let (fraction, rest) := match rest with
      | '.' :: rest => spanDigits rest
      | rest => ([], rest)
    if whole.isEmpty && fraction.isEmpty then none
    else (exponent? rest).map fun e =>
      ofDecimal negative (digitsValue (whole ++ fraction)) (e - fraction.length)

/-- The number a text stands for, if it is nothing but a numeral. -/
def numeral? (s : String) : Option Float :=
  let (negative, cs) := spanSign s.toList
  unsigned? negative cs

end RetreatDesk.Decimal
