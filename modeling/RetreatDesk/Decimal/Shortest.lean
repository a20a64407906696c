import RetreatDesk.Decimal.Binary

/-!
# The fewest digits that read back

* `shortest`: of the decimals that read back as a given number, the nearest with the fewest digits.
* `text`: the form in which a number is written: plain while the point stays within reach of the digits,
  with an exponent beyond.
-/

namespace RetreatDesk.Decimal

/-! ## The digits -/

/-- The points that round to a number, in units of `2 ^ unit`. -/
structure Basin where
  /-- The lower end. -/
  low : Nat
  /-- The number itself. -/
  mid : Nat
  /-- The upper end. -/
  high : Nat
  /-- The exponent of the unit. -/
  unit : Int
  /-- Whether the ends round to the number. -/
  closed : Bool

/-- The basin of `significand * 2 ^ exponent`. Below a power of two the neighbours are twice as close. -/
def Basin.of (b : Binary) : Basin :=
  let m := 4 * b.significand
  { low := if b.significand = fractionSpan ∧ -1074 < b.exponent then m - 1 else m - 2
    mid := m
    high := m + 2
    unit := b.exponent - 2
    closed := b.significand % 2 = 0 }

/-- A multiple of `10 ^ place` in the basin, the nearest to the middle, if there is one. -/
def Basin.hit (b : Basin) (place : Int) : Option Nat :=
  let (tenUp, tenDown) := powerFactors 10 place
  let (twoUp, twoDown) := powerFactors 2 b.unit
  let grid := tenUp * twoDown
  let scale := twoUp * tenDown
  let inside (d : Nat) : Bool :=
    if b.closed then b.low * scale ≤ d * grid && d * grid ≤ b.high * scale
    else b.low * scale < d * grid && d * grid < b.high * scale
  let below := b.mid * scale / grid
  let above := below + 1
  match inside below, inside above with
  | false, false => none
  | true, false => some below
  | false, true => some above
  | true, true =>
    let under := b.mid * scale - below * grid
    let excess := above * grid - b.mid * scale
    if under < excess then some below
    else if excess < under then some above
    else if below % 2 = 0 then some below else some above

/-- The place of the first digit: the exponent of the largest power of ten not above the number. -/
def leadingPlace (significand : Nat) (exponent : Int) : Int :=
  let guess := ((significand.log2 + exponent) * 30103).fdiv 100000
  let (twoUp, twoDown) := powerFactors 2 exponent
  let (tenUp, tenDown) := powerFactors 10 (guess + 1)
  if tenUp * twoDown ≤ significand * twoUp * tenDown then guess + 1 else guess

/-- Digits without the zeros at their end, and the place of the last one left. -/
def dropZeros (digits : Nat) (place : Int) : Nat × Int :=
  if h : digits ≠ 0 ∧ digits % 10 = 0 then dropZeros (digits / 10) (place + 1) else (digits, place)
termination_by digits
decreasing_by omega

/-- The shortest decimal `digits * 10 ^ place` that reads back as a positive number. Seventeen digits are
always enough. -/
def shortest (b : Binary) : Nat × Int :=
  let top := leadingPlace b.significand b.exponent
  let basin := Basin.of b
  let found := (List.range 17).findSome? fun (i : Nat) =>
    (basin.hit (top - i)).map fun d => (d, top - (i : Int))
  match found with
  | some (d, place) => dropZeros d place
  | none => (b.significand, b.exponent)

/-! ## The text -/

/-- A run of noughts. -/
def noughts (n : Nat) : List Char := List.replicate n '0'

/-- Digits with the point after the given number of them; a nought stands for an empty side. -/
def plain (digits : List Char) (whole : Int) : List Char :=
  if whole ≤ 0 then ['0', '.'] ++ noughts (-whole).toNat ++ digits
  else if digits.length ≤ whole.toNat then
    digits ++ noughts (whole.toNat - digits.length) ++ ['.', '0']
  else digits.take whole.toNat ++ ['.'] ++ digits.drop whole.toNat

/-- Digits with the point after the first and an exponent with its sign. -/
def scientific (digits : List Char) (exponent : Int) : List Char :=
  let mantissa := match digits with
    | d :: e :: rest => d :: '.' :: e :: rest
    | ds => ds
  let sign := if exponent < 0 then '-' else '+'
  mantissa ++ ['e', sign] ++ (Nat.repr exponent.natAbs).toList

/-- The number as text. The point is written where the first digit stands between five places behind it
and fifteen before it, an exponent otherwise. -/
def text (x : Float) : String :=
  match shape x with
  | .nan => "NaN"
  | .infinite negative => if negative then "-inf" else "inf"
  | .finite b =>
    let sign := if b.negative then ['-'] else []
    if b.significand = 0 then String.ofList (sign ++ ['0', '.', '0'])
    else
      let (digits, place) := shortest b
      let ds := (Nat.repr digits).toList
      let first := place + ds.length - 1
      let body := if -5 ≤ first ∧ first ≤ 15 then plain ds (first + 1) else scientific ds first
      String.ofList (sign ++ body)

end RetreatDesk.Decimal
