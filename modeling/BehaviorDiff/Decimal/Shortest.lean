set_option autoImplicit false

/-!
Binary numbers of 53 bits and the shortest decimals that stand for them. A decimal stands for the
nearest binary number; of two equally near ones, for the even one.
-/

namespace BehaviorDiff.Decimal

/-- The number `digits * 10 ^ exponent`. -/
structure Scientific where
  digits : Nat
  exponent : Int
  deriving DecidableEq, Repr

/-- The number `significand * 2 ^ exponent`. -/
structure Binary where
  significand : Nat
  exponent : Int
  deriving DecidableEq, Repr

/-- The least significand of 53 bits. -/
def hiddenBit : Nat := Nat.pow 2 52

/-- The exponent of the least positive number. -/
def leastExponent : Int := -1074

/-- The exponent of the greatest numbers. -/
def greatestExponent : Int := 971

/-- A positive fraction times a power of a base. -/
def scaled (base : Nat) (fraction : Nat × Nat) (exponent : Int) : Nat × Nat :=
  (fraction.1 * Nat.pow base exponent.toNat, fraction.2 * Nat.pow base (-exponent).toNat)

/-- The whole number nearest to a fraction, the even one of two. -/
def roundEven (fraction : Nat × Nat) : Nat :=
  let floor := fraction.1 / fraction.2
  let twice := 2 * (fraction.1 % fraction.2)
  if twice < fraction.2 || (twice = fraction.2 && floor % 2 = 0) then floor else floor + 1

/-- Beyond this many places before or behind the point a decimal is out of range. -/
def placeLimit : Int := 400

/-- The binary number nearest to a decimal, unless that is too great. -/
def Scientific.nearest? (decimal : Scientific) : Option Binary :=
  let places := decimal.exponent + (toString decimal.digits).length
  if decimal.digits = 0 || places < -placeLimit then some ⟨0, leastExponent⟩
  else if placeLimit < places then none
  else
    let fraction := scaled 10 (decimal.digits, 1) decimal.exponent
    let guess : Int := (fraction.1.log2 : Int) - fraction.2.log2 - 53
    let quotient := scaled 2 fraction (-guess)
    let exact := if quotient.1 / quotient.2 < 2 * hiddenBit then guess else guess + 1
    let exponent := max exact leastExponent
    let rounded := roundEven (scaled 2 fraction (-exponent))
    let number : Binary :=
      if rounded = 2 * hiddenBit then ⟨hiddenBit, exponent + 1⟩ else ⟨rounded, exponent⟩
    if greatestExponent < number.exponent then none else some number

/-- How a decimal compares with `count * 2 ^ exponent`. -/
def Scientific.compareTo (decimal : Scientific) (count : Nat) (exponent : Int) : Ordering :=
  let left := scaled 10 (decimal.digits, 1) decimal.exponent
  let right := scaled 2 (count, 1) exponent
  compare (left.1 * right.2) (right.1 * left.2)

/-- Whether a decimal lies among the numbers that are nearest to a binary number. Below a power of
two these reach half as far. -/
def Binary.isNearestTo (number : Binary) (decimal : Scientific) : Bool :=
  let isNarrow := number.significand = hiddenBit && leastExponent < number.exponent
  let low := if isNarrow then 4 * number.significand - 1 else 4 * number.significand - 2
  let high := 4 * number.significand + 2
  let isEven := number.significand % 2 = 0
  let fromLow := decimal.compareTo low (number.exponent - 2)
  let fromHigh := decimal.compareTo high (number.exponent - 2)
  (fromLow = .gt || (isEven && fromLow = .eq)) && (fromHigh = .lt || (isEven && fromHigh = .eq))

/-- The number of places before the point, negative for zeros behind it. Every round moves the
point. -/
def places (fraction : Nat × Nat) : Nat → Int
  | 0 => 0
  | rounds + 1 =>
    if fraction.2 ≤ fraction.1 then (toString (fraction.1 / fraction.2)).length
    else places (fraction.1 * 10, fraction.2) rounds - 1

/-- The decimal of a number of digits that is nearest to a binary number, if that stands for it: one
of the two neighbours on the grid, the upper one if both are as near. -/
def Binary.withDigits? (number : Binary) (fraction : Nat × Nat) (exponent : Int) :
    Option Scientific :=
  let quotient := scaled 10 fraction (-exponent)
  let floor := quotient.1 / quotient.2
  let lower : Scientific := ⟨floor, exponent⟩
  let upper : Scientific := ⟨floor + 1, exponent⟩
  let isUpperNearer := quotient.2 ≤ 2 * (quotient.1 % quotient.2)
  match number.isNearestTo lower, number.isNearestTo upper with
  | true, true => some (if isUpperNearer then upper else lower)
  | true, false => some lower
  | false, true => some upper
  | false, false => none

/-- The most digits that a binary number needs. -/
def mostDigits : Nat := 17

/-- The shortest decimal that stands for a binary number. -/
def Binary.shortest (number : Binary) : Scientific :=
  let fraction := scaled 2 (number.significand, 1) number.exponent
  let point := places fraction placeLimit.toNat
  let found := (List.range mostDigits).findSome? fun count =>
    number.withDigits? fraction (point - (count + 1 : Nat))
  if number.significand = 0 then ⟨0, 0⟩ else found.getD ⟨0, 0⟩

/-- A decimal with a point and at least one digit on either side of it. -/
def Scientific.text (decimal : Scientific) : String :=
  let digits := (toString decimal.digits).toList
  let shown : List Char × List Char :=
    if 0 ≤ decimal.exponent then
      (digits ++ List.replicate decimal.exponent.toNat '0', ['0'])
    else
      let behind := decimal.exponent.natAbs
      if behind < digits.length then digits.splitAt (digits.length - behind)
      else (['0'], List.replicate (behind - digits.length) '0' ++ digits)
  String.ofList (shown.1 ++ '.' :: shown.2)

end BehaviorDiff.Decimal
