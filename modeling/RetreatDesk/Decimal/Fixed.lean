import RetreatDesk.Decimal.Binary

/-!
# A fixed number of places

* `fixed`: a number with so many digits after the point, the exact value rounded, a tie going to the even digit.
* `isWhole`: whether a number has nothing after the point.
-/

namespace RetreatDesk.Decimal

/-- The digits of `n` with a point before the last `places` of them. -/
def pointed (n places : Nat) : List Char :=
  let ds := (Nat.repr n).toList
  let ds := List.replicate (places + 1 - ds.length) '0' ++ ds
  if places = 0 then ds
  else ds.take (ds.length - places) ++ ['.'] ++ ds.drop (ds.length - places)

/-- The number with `places` digits after the point. The sign is kept even where only noughts are left. -/
def fixed (places : Nat) (x : Float) : String :=
  match shape x with
  | .nan => "NaN"
  | .infinite negative => if negative then "-inf" else "inf"
  | .finite b =>
    let (up, down) := powerFactors 2 b.exponent
    let n := roundDiv (b.significand * up * Nat.pow 10 places) down
    String.ofList ((if b.negative then ['-'] else []) ++ pointed n places)

/-- Whether the number is finite with nothing after the point. -/
def isWhole (x : Float) : Bool :=
  match shape x with
  | .finite b =>
    let (up, down) := powerFactors 2 b.exponent
    b.significand * up % down = 0
  | _ => false

end RetreatDesk.Decimal
