import RetreatDesk.Decimal.Numeral
import RetreatDesk.Text.Blank

/-!
# Calendar dates

* `Date`: a day of the Gregorian calendar, carried back before its start.
* `Date.ofText?`: a plain date, or the date of a timestamp as it is written there.
* `Date.text`: year, month and day; years of other than four digits carry a sign.
-/

namespace RetreatDesk

/-- Whether a year has a leap day. -/
def isLeapYear (year : Int) : Bool :=
  year % 4 = 0 && (year % 100 ≠ 0 || year % 400 = 0)

/-- The days of a month, none for a number that is no month. -/
def daysInMonth (year : Int) (month : Nat) : Nat :=
  match month with
  | 1 | 3 | 5 | 7 | 8 | 10 | 12 => 31
  | 4 | 6 | 9 | 11 => 30
  | 2 => if isLeapYear year then 29 else 28
  | _ => 0

/-- The years that dates are kept for. -/
def isDatable (year : Int) : Bool := -262143 ≤ year && year ≤ 262142

/-- A day of the calendar. -/
structure Date where
  /-- The year; the year before 1 is 0. -/
  year : Int
  /-- The month, from 1. -/
  month : Nat
  /-- The day of the month, from 1. -/
  day : Nat
  exists_day : isDatable year ∧ 1 ≤ day ∧ day ≤ daysInMonth year month
  deriving DecidableEq

namespace Date

/-- The day with these numbers, if there is one. -/
def of? (year : Int) (month day : Nat) : Option Date :=
  if h : isDatable year ∧ 1 ≤ day ∧ day ≤ daysInMonth year month then some ⟨year, month, day, h⟩
  else none

/-! ## Reading -/

/-- One to `most` digits at the front, as a number. -/
def number? (most : Nat) (cs : List Char) : Option (Nat × List Char) :=
  let ds := (cs.take most).takeWhile Char.isDigit
  if ds.isEmpty then none else some (Decimal.digitsValue ds, cs.drop ds.length)

/-- Any number of digits at the front, at least one. -/
def longNumber? (cs : List Char) : Option (Nat × List Char) := number? cs.length cs

/-- Exactly `count` digits at the front. -/
def fixedNumber? (count : Nat) (cs : List Char) : Option (Nat × List Char) :=
  if ((cs.take count).takeWhile Char.isDigit).length = count then number? count cs else none

/-- One character at the front. -/
def char? (c : Char) : List Char → Option (List Char)
  | d :: rest => if c = d then some rest else none
  | [] => none

/-- A year: four digits at most, or more after a sign. -/
def year? (cs : List Char) : Option (Int × List Char) :=
  match Text.dropBlanks cs with
  | '-' :: rest => (longNumber? rest).map fun (n, rest) => (-(n : Int), rest)
  | '+' :: rest => (longNumber? rest).map fun (n, rest) => ((n : Int), rest)
  | rest => (number? 4 rest).map fun (n, rest) => ((n : Int), rest)

/-- A date alone: year, month and day with hyphens between, blanks before each number. -/
def plain? (cs : List Char) : Option Date := do
  let (year, cs) ← year? cs
  let cs ← char? '-' cs
  let (month, cs) ← number? 2 (Text.dropBlanks cs)
  let cs ← char? '-' cs
  let (day, cs) ← number? 2 (Text.dropBlanks cs)
  if cs.isEmpty then of? year month day else none

/-- A fraction of a second, if there is one. -/
def fraction? (cs : List Char) : Option (List Char) :=
  match cs with
  | '.' :: rest => (longNumber? rest).map (·.2)
  | cs => some cs

/-- Whether a text is an offset: `Z`, or a sign, hours and minutes, less than a day. -/
def isOffset (cs : List Char) : Bool :=
  match cs with
  | ['Z'] | ['z'] => true
  | sign :: rest =>
    (sign = '+' || sign = '-' || sign = '−') &&
      ((do
        let (hours, rest) ← fixedNumber? 2 rest
        let rest ← char? ':' rest
        let (minutes, rest) ← fixedNumber? 2 rest
        return rest.isEmpty && hours ≤ 23 && minutes ≤ 59 : Option Bool)).getD false
  | [] => false

/-- The date of a timestamp with an offset, as it is written there. -/
def timestamp? (cs : List Char) : Option Date := do
  let (year, cs) ← fixedNumber? 4 cs
  let cs ← char? '-' cs
  let (month, cs) ← fixedNumber? 2 cs
  let cs ← char? '-' cs
  let (day, cs) ← fixedNumber? 2 cs
  let cs ← char? 'T' cs <|> char? 't' cs <|> char? ' ' cs
  let (hour, cs) ← fixedNumber? 2 cs
  let cs ← char? ':' cs
  let (minute, cs) ← fixedNumber? 2 cs
  let cs ← char? ':' cs
  let (second, cs) ← fixedNumber? 2 cs
  let cs ← fraction? cs
  if hour ≤ 23 && minute ≤ 59 && second ≤ 60 && isOffset cs then of? year month day else none

/-- The date that a text holds, blanks around it aside. -/
def ofText? (s : String) : Option Date :=
  let cs := (Text.trim s).toList
  plain? cs <|> timestamp? cs

/-! ## Writing -/

/-- A number with noughts in front up to a width. -/
def padded (width n : Nat) : String :=
  let ds := (Nat.repr n).toList
  String.ofList (List.replicate (width - ds.length) '0' ++ ds)

/-- The year in four digits, or with its sign where four do not do. -/
def yearText (year : Int) : String :=
  if 0 ≤ year ∧ year ≤ 9999 then padded 4 year.toNat
  else (if year < 0 then "-" else "+") ++ padded 4 year.natAbs

/-- Year, month and day. -/
def text (d : Date) : String :=
  yearText d.year ++ "-" ++ padded 2 d.month ++ "-" ++ padded 2 d.day

end Date

end RetreatDesk
