/-!
# Numbers in double precision

A number constant is a double: sign, eleven bits of exponent, fifty-two bits of fraction. The type
keeps the bits, so that equality is decided on them, and gives the magnitude of a finite number as a
natural number times a power of two.
-/

namespace QueryExpr

/-- A double-precision number, given by its 64 bits. -/
structure Binary64 where
  bits : UInt64
  deriving DecidableEq, Repr, Inhabited

namespace Binary64

/-- What the bits denote. -/
inductive Value where
  /-- Not a number. -/
  | nan
  /-- An infinity. -/
  | infinite (negative : Bool)
  /-- The magnitude `mantissa * 2 ^ exponent`. -/
  | finite (negative : Bool) (mantissa : Nat) (exponent : Int)
  deriving DecidableEq, Repr

/-- The least exponent of two of a finite number. -/
def minExponent : Int := -1074

/-- How many fractions there are, `2 ^ 52`: the place of the leading bit of a mantissa. -/
def fractions : Nat := 0x10000000000000

/-- What the bits denote. A biased exponent of zero marks a number without the leading bit, and the
largest one marks the infinities and the values that are not numbers. -/
def value (x : Binary64) : Value :=
  let n := x.bits.toNat
  let negative : Bool := n / 0x8000000000000000 = 1
  let biased : Nat := n / fractions % 2048
  let fraction : Nat := n % fractions
  if biased = 2047 then (if fraction = 0 then .infinite negative else .nan)
  else if biased = 0 then .finite negative fraction minExponent
  else .finite negative (fractions + fraction) ((biased : Int) - 1075)

/-- The bit that marks a negative number. -/
def signBit (negative : Bool) : Nat := if negative then 0x8000000000000000 else 0

/-- An infinity. -/
def infinity (negative : Bool) : Binary64 := ⟨.ofNat (signBit negative + 2047 * fractions)⟩

/-- The value that is not a number. -/
def nan : Binary64 := ⟨.ofNat (2047 * fractions + fractions / 2)⟩

/-- The quotient, rounded to the nearest natural number; a half goes to the even neighbour. -/
def roundDiv (num den : Nat) : Nat :=
  let floor := num / den
  let rest := num % den
  if den < 2 * rest ∨ (2 * rest = den ∧ floor % 2 = 1) then floor + 1 else floor

/-- The greatest `e` with `2 ^ e ≤ num / den`, for positive `num` and `den`. -/
def floorLog2 (num den : Nat) : Int :=
  let e : Int := (Nat.log2 num : Int) - Nat.log2 den
  if den * Nat.pow 2 e.toNat ≤ num * Nat.pow 2 (-e).toNat then e else e - 1

/-- The double nearest to `num / den`. -/
def ofRatio (negative : Bool) (num den : Nat) : Binary64 :=
  if num = 0 then ⟨.ofNat (signBit negative)⟩
  else
    let exponent := max (floorLog2 num den - 52) minExponent
    let mantissa := roundDiv (num * Nat.pow 2 (-exponent).toNat) (den * Nat.pow 2 exponent.toNat)
    let magnitude :=
      if mantissa < fractions then mantissa
      else (exponent - minExponent + 1).toNat * fractions + (mantissa - fractions)
    if 2047 * fractions ≤ magnitude then infinity negative
    else ⟨.ofNat (signBit negative + magnitude)⟩

/-- The double nearest to `digits * 10 ^ exponent`. Magnitudes far outside the range of doubles are
decided by the number of digits alone. -/
def ofDecimal (negative : Bool) (digits : Nat) (exponent : Int) : Binary64 :=
  let size : Int := (Nat.toDigits 10 digits).length + exponent
  if digits = 0 ∨ size < -400 then ofRatio negative 0 1
  else if 400 < size then infinity negative
  else ofRatio negative (digits * Nat.pow 10 exponent.toNat) (Nat.pow 10 (-exponent).toNat)

end Binary64
end QueryExpr
