/-!
# Floating point numbers as fractions

* `shape`: a `Float` as a signed significand times a power of two, an infinity, or no number.
* `nearest`: the `Float` nearest to a fraction, a tie going to the even significand.
* `ofDecimal`: the `Float` nearest to a decimal numeral.
-/

namespace RetreatDesk.Decimal

/-! ## From a `Float` -/

/-- The number `significand * 2 ^ exponent`, negated when `negative`. -/
structure Binary where
  /-- Whether the sign is minus. -/
  negative : Bool
  /-- The significand, below `2 ^ 53`. -/
  significand : Nat
  /-- The exponent of two, at least `-1074`. -/
  exponent : Int

/-- What a `Float` stands for. -/
inductive Shape where
  /-- No number. -/
  | nan
  | infinite (negative : Bool)
  | finite (value : Binary)

/-- The number of fractions: they have fifty-two bits. -/
def fractionSpan : Nat := Nat.pow 2 52

/-- The number of exponents: they have eleven bits. -/
def exponentSpan : Nat := Nat.pow 2 11

/-- The number of bit patterns below the bit of the sign. -/
def signSpan : Nat := Nat.pow 2 63

/-- What the bits of a `Float` say: sign, eleven bits of exponent, fifty-two of fraction. -/
def shape (x : Float) : Shape :=
  let bits := x.toBits.toNat
  let negative := bits / signSpan == 1
  let exponent : Nat := bits / fractionSpan % exponentSpan
  let fraction := bits % fractionSpan
  if exponent = 2047 then
    if fraction = 0 then .infinite negative else .nan
  else if exponent = 0 then .finite ⟨negative, fraction, -1074⟩
  else .finite ⟨negative, fractionSpan + fraction, (exponent : Int) - 1075⟩

/-- Neither an infinity nor no number. -/
def isFinite (x : Float) : Bool :=
  match shape x with
  | .finite _ => true
  | _ => false

/-- A power with an exponent of either sign, as the factors of numerator and denominator. -/
def powerFactors (base : Nat) (exponent : Int) : Nat × Nat :=
  (Nat.pow base exponent.toNat, Nat.pow base (-exponent).toNat)

/-! ## To a `Float` -/

/-- The whole number nearest to `num / den`, a tie going to the even one. -/
def roundDiv (num den : Nat) : Nat :=
  let q := num / den
  let r := num % den
  if 2 * r < den then q
  else if den < 2 * r then q + 1
  else if q % 2 = 0 then q else q + 1

/-- The bits of the `Float` nearest to `num / den`; past the largest one stands the infinity. -/
def nearestBits (num den : Nat) : Nat :=
  if num = 0 then 0
  else
    let guess : Int := (num.log2 : Int) - den.log2 - 52
    let (up, down) := powerFactors 2 guess
    let exponent := max (-1074) (if num * down / (den * up) < fractionSpan then guess - 1 else guess)
    let (up, down) := powerFactors 2 exponent
    let significand := roundDiv (num * down) (den * up)
    min ((exponent + 1074).toNat * fractionSpan + significand) (2047 * fractionSpan)

/-- The `Float` with the given sign nearest to `num / den`. -/
def nearest (negative : Bool) (num den : Nat) : Float :=
  Float.ofBits (UInt64.ofNat (nearestBits num den + if negative then signSpan else 0))

/-- The `Float` with the given sign nearest to `digits * 10 ^ exponent`. Exponents out of reach of every
`Float` are answered without forming the power. -/
def ofDecimal (negative : Bool) (digits : Nat) (exponent : Int) : Float :=
  if digits = 0 || exponent < -400 - (digits.log2 : Int) then nearest negative 0 1
  else if 400 < exponent then nearest negative (Nat.pow 2 1100) 1
  else
    let (up, down) := powerFactors 10 exponent
    nearest negative (digits * up) down

/-- The `Float` nearest to a whole number. -/
def ofInt (n : Int) : Float := nearest (n < 0) n.natAbs 1

end RetreatDesk.Decimal
