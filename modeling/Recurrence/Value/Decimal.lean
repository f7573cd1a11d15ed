import Recurrence.Text.Digit

namespace Recurrence

/-- Digits times a power of ten. Of a number that is written with a point or an exponent the nearest one with 53
    binary digits is kept, which is a decimal number again. -/
structure Decimal where
  digits : Int
  exponent : Int
deriving DecidableEq, Repr

namespace Decimal

/-- Moves zeros at the end of the digits into the exponent. -/
def strippedFrom : (fuel : Nat) → Decimal → Decimal
  | 0, number => number
  | fuel + 1, number =>
    if number.digits ≠ 0 ∧ number.digits % 10 = 0 then
      strippedFrom fuel ⟨number.digits / 10, number.exponent + 1⟩
    else number

/-- How many digits there are. -/
def length (number : Decimal) : Nat := (toString number.digits.natAbs).length

/-- The number with no zero at the end of its digits. -/
def stripped (number : Decimal) : Decimal :=
  if number.digits = 0 then ⟨0, 0⟩ else strippedFrom number.length number

/-- The number as a numerator without its sign, and a denominator. -/
def ratio (number : Decimal) : Nat × Nat :=
  (number.digits.natAbs * Nat.pow 10 number.exponent.toNat, Nat.pow 10 (-number.exponent).toNat)

/-- The same digits with the sign of another number. -/
def withSignOf (number other : Decimal) : Decimal :=
  if other.digits < 0 then ⟨-number.digits, number.exponent⟩ else number

/-- A number times a power of two. -/
def ofBinary (number : Nat) (power : Int) : Decimal :=
  ⟨(number * Nat.pow 2 power.toNat * Nat.pow 5 (-power).toNat : Nat), min power 0⟩

/-- A quotient rounded to the nearest integer, and from the middle to the even one. -/
def roundedQuotient (number divisor : Nat) : Nat :=
  let whole := number / divisor
  let double := 2 * (number % divisor)
  if double < divisor ∨ (double = divisor ∧ whole % 2 = 0) then whole else whole + 1

/-- A quotient rounded to 53 binary digits, and to fewer below the least power of two that has so many. -/
def roundedBinary (number divisor : Nat) : Nat × Int :=
  let guess : Int := number.log2 - divisor.log2
  let scaled (power : Int) : Nat × Nat :=
    (number * Nat.pow 2 (-power).toNat, divisor * Nat.pow 2 power.toNat)
  let (above, below) := scaled guess
  let power := max ((if above < below then guess - 1 else guess) - 52) (-1074)
  let (above, below) := scaled power
  (roundedQuotient above below, power)

/-- The nearest number that is kept. There is none for numbers that are too large, from about 10 to the
    power of 308 on. -/
def nearest? (number : Decimal) : Option Decimal :=
  let places := number.length + number.exponent
  if number.digits = 0 ∨ places < -330 then some ⟨0, 0⟩
  else if 310 < places then none
  else
    let (above, below) := number.ratio
    let (kept, power) := roundedBinary above below
    if Nat.pow 2 1024 ≤ kept * Nat.pow 2 power.toNat then none
    else some ((ofBinary kept power).stripped.withSignOf number)

/-- The integer that the number is, if it is one. -/
def integer? (number : Decimal) : Option Int :=
  let least := number.stripped
  if 0 ≤ least.exponent then some (least.digits * Int.pow 10 least.exponent.toNat) else none

/-- Whether the number is no greater than a count. -/
def isAtMost (number : Decimal) (count : Nat) : Bool :=
  let (above, below) := number.ratio
  decide (number.digits < 0) || decide (above ≤ count * below)

/-- The whole part of the number. -/
def whole (number : Decimal) : Int :=
  let (above, below) := number.ratio
  if number.digits < 0 then -((above / below : Nat) : Int) else (above / below : Nat)

/-- The least integer that is not below the number. -/
def ceiling (number : Decimal) : Int :=
  if (number.integer?).isSome ∨ number.digits < 0 then number.whole else number.whole + 1

/-- The number with that many digits which is nearest to a positive one, of the two around it that are
    read as this one. -/
def shortened? (number : Decimal) (count : Nat) : Option Decimal :=
  let dropped := number.length - count
  let scale := Nat.pow 10 dropped
  let lower := number.digits.natAbs / scale
  let isNear (digits : Nat) : Bool := (nearest? ⟨digits, number.exponent + dropped⟩) = some number
  let first := roundedQuotient number.digits.natAbs scale
  let second := if first = lower then lower + 1 else lower
  ([first, second].find? isNear).map fun digits => ⟨digits, number.exponent + dropped⟩

/-- A number that is kept, with the fewest digits that are read as it. -/
def shortest (number : Decimal) : Decimal :=
  let kept := number.stripped
  let positive : Decimal := ⟨kept.digits.natAbs, kept.exponent⟩
  let found := ((List.range 17).findSome? fun count => positive.shortened? (count + 1)).getD positive
  found.stripped.withSignOf number

/-- The number with its point in place from 0.0001 up to sixteen places before the point, and otherwise
    with an exponent of at least two digits. -/
def shown (number : Decimal) : String :=
  let least := number.shortest
  let sign := if least.digits < 0 then "-" else ""
  let digits := toString least.digits.natAbs
  let point : Int := digits.length + least.exponent
  sign ++
    if point ≤ -4 ∨ 16 < point then
      let more := (digits.drop 1).toString
      let power := point - 1
      (digits.take 1).toString ++ (if more.isEmpty then "" else "." ++ more) ++ "e" ++
        (if power < 0 then "-" else "+") ++ Text.padded 2 power.natAbs
    else if point ≤ 0 then "0." ++ String.ofList (List.replicate (-point).toNat '0') ++ digits
    else if digits.length ≤ point then
      digits ++ String.ofList (List.replicate (point.toNat - digits.length) '0') ++ ".0"
    else (digits.take point.toNat).toString ++ "." ++ (digits.drop point.toNat).toString

end Decimal

end Recurrence
