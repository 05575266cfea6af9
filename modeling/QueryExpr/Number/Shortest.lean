import QueryExpr.Number.Binary64

/-!
# Writing numbers

A number is written with the fewest decimal digits that read back as the same double. For 1, 2, …, 17
digits the two neighbours of the value on that decimal grid are compared with the interval of reals
that round to the double; the first grid with a hit gives the digits, and of two hits the nearer one
does, a tie going to the even digit. All of this is exact arithmetic on natural numbers.

The digits are laid out positionally if the decimal point falls close enough to them
(`positional`), and otherwise with an exponent.
-/

namespace QueryExpr.Binary64

/-- Decimal digits and an exponent: the number `digits * 10 ^ exponent`. -/
structure Decimal where
  digits : Nat
  exponent : Int
  deriving DecidableEq, Repr

/-- `digits * 10 ^ exponent`, compared with a ratio by `rel`. -/
def Decimal.compareWith (rel : Nat → Nat → Bool) (d : Decimal) (num den : Nat) : Bool :=
  rel (d.digits * Nat.pow 10 d.exponent.toNat * den) (num * Nat.pow 10 (-d.exponent).toNat)

/-- The reals that round to one double, as ratios with a common denominator. -/
structure RoundingInterval where
  /-- Numerator of the lower end. -/
  low : Nat
  /-- Numerator of the double itself. -/
  mid : Nat
  /-- Numerator of the upper end. -/
  high : Nat
  /-- The common denominator. -/
  den : Nat
  /-- The ends round to the double too. -/
  closed : Bool
  deriving Repr

/-- The reals that round to `mantissa * 2 ^ exponent`. Below a power of two the next smaller double is
only half as far away; the ends belong to the double with the even mantissa. -/
def roundingInterval (mantissa : Nat) (exponent : Int) : RoundingInterval :=
  let scale := Nat.pow 2 exponent.toNat
  let lowGap := if mantissa = fractions ∧ exponent ≠ minExponent then 1 else 2
  { low := (4 * mantissa - lowGap) * scale
    mid := 4 * mantissa * scale
    high := (4 * mantissa + 2) * scale
    den := 4 * Nat.pow 2 (-exponent).toNat
    closed := mantissa % 2 = 0 }

/-- The decimal lies in the interval. -/
def RoundingInterval.contains (i : RoundingInterval) (d : Decimal) : Bool :=
  if i.closed then
    d.compareWith (fun a b => decide (b ≤ a)) i.low i.den &&
      d.compareWith (fun a b => decide (a ≤ b)) i.high i.den
  else
    d.compareWith (fun a b => decide (b < a)) i.low i.den &&
      d.compareWith (fun a b => decide (a < b)) i.high i.den

/-- The greatest `e` with `10 ^ e ≤ num / den`, for a ratio of at least `10 ^ -350`. -/
def floorLog10 (num den : Nat) : Int :=
  ((Nat.toDigits 10 (num * Nat.pow 10 350 / den)).length : Int) - 351

/-- The best decimal with the given exponent inside the interval: of the two neighbours of the double
on this grid those that lie inside, and of both the nearer one, in a tie the even one. -/
def RoundingInterval.onGrid? (i : RoundingInterval) (exponent : Int) : Option Decimal :=
  let num := i.mid * Nat.pow 10 (-exponent).toNat
  let den := i.den * Nat.pow 10 exponent.toNat
  let below : Decimal := ⟨num / den, exponent⟩
  let above : Decimal := ⟨num / den + 1, exponent⟩
  match i.contains below, i.contains above with
  | true, true => if roundDiv num den = num / den then some below else some above
  | true, false => some below
  | false, true => some above
  | false, false => none

/-- The shortest decimal that reads back as `mantissa * 2 ^ exponent`, for a positive mantissa. -/
def shortest (mantissa : Nat) (exponent : Int) : Decimal :=
  let i := roundingInterval mantissa exponent
  let top := floorLog10 i.mid i.den + 1
  ((List.range 18).findSome? fun (n : Nat) => i.onGrid? (top - n)).getD ⟨0, 0⟩

/-- Which numbers are written without an exponent: those whose decimal point falls less than
`leadingZeros` places before and at most `integerDigits` places after the first digit. -/
structure PositionalRange where
  leadingZeros : Int
  integerDigits : Int

/-- Numbers from `0.00001` up to sixteen integer digits are written positionally. -/
def positional : PositionalRange := ⟨5, 16⟩

/-- The digits with the decimal point at its place. -/
def Decimal.write (d : Decimal) : List Char :=
  let digits := Nat.toDigits 10 d.digits
  let point : Int := digits.length + d.exponent
  if 0 ≤ d.exponent ∧ point ≤ positional.integerDigits then
    digits ++ List.replicate d.exponent.toNat '0' ++ ['.', '0']
  else if 0 < point ∧ point ≤ positional.integerDigits then
    digits.take point.toNat ++ '.' :: digits.drop point.toNat
  else if -positional.leadingZeros < point ∧ point ≤ 0 then
    '0' :: '.' :: List.replicate (-point).toNat '0' ++ digits
  else
    let fraction := digits.drop 1
    digits.take 1 ++ (if fraction = [] then [] else '.' :: fraction) ++
      'e' :: (toString (point - 1)).toList

/-- A number as it is written. -/
def write (x : Binary64) : String :=
  match x.value with
  | .nan => "NaN"
  | .infinite negative => if negative then "-inf" else "inf"
  | .finite negative mantissa exponent =>
    let magnitude := if mantissa = 0 then "0.0".toList else (shortest mantissa exponent).write
    String.ofList (if negative then '-' :: magnitude else magnitude)

end QueryExpr.Binary64
