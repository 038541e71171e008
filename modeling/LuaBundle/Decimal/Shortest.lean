/-! # The shortest decimal that reads back

A binary fraction `m * 2 ^ q` stands for all reals that round to it. Of the decimals among them the
one with the fewest digits is taken, and of several of those the nearest.
-/

namespace LuaBundle

/-- The decimal number `digits * 10 ^ exponent`. -/
structure Decimal where
  digits : Nat
  exponent : Int
  deriving Repr, DecidableEq

/-- A positive binary fraction `mantissa * 2 ^ exponent`. -/
structure BinaryFraction where
  mantissa : Nat
  exponent : Int
  /-- Whether the next smaller fraction is only half as far away as the next larger one. -/
  closeBelow : Bool
  deriving Repr, DecidableEq

namespace BinaryFraction

/-- The number itself in quarters of the unit `2 ^ exponent`. -/
def quarters (b : BinaryFraction) : Nat := 4 * b.mantissa

/-- The lower end of what rounds to the number, in quarters. -/
def lower (b : BinaryFraction) : Nat := b.quarters - (if b.closeBelow then 1 else 2)

/-- The upper end of what rounds to the number, in quarters. -/
def upper (b : BinaryFraction) : Nat := b.quarters + 2

/-- A count of quarters, brought to the scale on which it is compared with decimals whose last
place is `10 ^ place`. -/
def scaleQuarters (b : BinaryFraction) (place : Int) (quarters : Nat) : Nat :=
  quarters * Nat.pow 2 b.exponent.toNat * Nat.pow 10 (-place).toNat

/-- A decimal with the given digits up to the place `10 ^ place`, on the same scale. -/
def scaleDigits (b : BinaryFraction) (place : Int) (digits : Nat) : Nat :=
  digits * 4 * Nat.pow 10 place.toNat * Nat.pow 2 (-b.exponent).toNat

/-- Whether a decimal rounds to the number. An end of the interval does if the mantissa is even. -/
def holds (b : BinaryFraction) (place : Int) (digits : Nat) : Bool :=
  let d := b.scaleDigits place digits
  let low := b.scaleQuarters place b.lower
  let high := b.scaleQuarters place b.upper
  if b.mantissa % 2 == 0 then low ≤ d && d ≤ high else low < d && d < high

/-- The best decimal with its last place at `10 ^ place`, if one rounds to the number. -/
def atPlace? (b : BinaryFraction) (place : Int) : Option Decimal :=
  let value := b.scaleQuarters place b.quarters
  let below := value / b.scaleDigits place 1
  let distanceBelow := value - b.scaleDigits place below
  let distanceAbove := b.scaleDigits place (below + 1) - value
  let fromBelow := below != 0 && b.holds place below
  let fromAbove := b.holds place (below + 1)
  if fromBelow && fromAbove then
    if distanceBelow < distanceAbove || (distanceBelow == distanceAbove && below % 2 == 0) then
      some ⟨below, place⟩
    else some ⟨below + 1, place⟩
  else if fromBelow then some ⟨below, place⟩
  else if fromAbove then some ⟨below + 1, place⟩
  else none

/-- The decimal place of the number's first digit, looked for among those a double can have. -/
def leadingPlace (b : BinaryFraction) : Int :=
  let places := (List.range 640).map fun (n : Nat) => (310 : Int) - (n : Int)
  (places.find? fun place =>
    b.scaleDigits place 1 ≤ b.scaleQuarters place b.quarters).getD (-330)

/-- The shortest decimal that rounds to the number. -/
def shortest (b : BinaryFraction) : Decimal :=
  let leading := b.leadingPlace
  let places := (List.range 18).map fun (n : Nat) => leading + 1 - (n : Int)
  (places.findSome? b.atPlace?).getD ⟨0, 0⟩

end BinaryFraction

namespace Decimal

/-- Sign and absolute value of a finite double other than zero. -/
def signAndFraction (bits : UInt64) : Bool × BinaryFraction :=
  let n := bits.toNat
  let fraction : Nat := n % Nat.pow 2 52
  let scale : Nat := n / Nat.pow 2 52 % Nat.pow 2 11
  (n / Nat.pow 2 63 == 1,
    if scale == 0 then ⟨fraction, -1074, false⟩
    else ⟨fraction + Nat.pow 2 52, (scale : Int) - 1075, fraction == 0 && scale != 1⟩)

/-- Digits of a decimal with a point after the first `whole` of them. -/
def pointed (digits : List Char) (whole : Nat) : List Char :=
  digits.take whole ++ '.' :: digits.drop whole

/-- Write an exponent, always with its sign. -/
def renderExponent (exponent : Int) : List Char :=
  if exponent < 0 then (toString exponent).toList else '+' :: (toString exponent).toList

/-- Write a decimal. Numbers from `10 ^ -5` up to `10 ^ 16` are written out, with a fraction even
if it is zero; others have an exponent, and a fraction only if they need one. -/
def render (decimal : Decimal) : List Char :=
  let digits := (toString decimal.digits).toList
  let magnitude : Int := digits.length + decimal.exponent
  if 0 ≤ decimal.exponent ∧ magnitude ≤ 16 then
    digits ++ List.replicate decimal.exponent.toNat '0' ++ ['.', '0']
  else if 0 < magnitude ∧ magnitude ≤ 16 then
    pointed digits magnitude.toNat
  else if -5 < magnitude ∧ magnitude ≤ 0 then
    ['0', '.'] ++ List.replicate (-magnitude).toNat '0' ++ digits
  else
    (if digits.length = 1 then digits else pointed digits 1) ++
      'e' :: renderExponent (magnitude - 1)

/-- The text of a finite double. -/
def ofFloat (value : Float) : String :=
  let (negative, binary) := signAndFraction value.toBits
  let sign := if negative then "-" else ""
  if binary.mantissa == 0 then sign ++ "0.0"
  else sign ++ String.ofList (render binary.shortest)

end Decimal

end LuaBundle
