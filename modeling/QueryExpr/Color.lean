import QueryExpr.Text.Hex

/-!
# Colors

Red, green, blue and alpha, one byte each.
-/

namespace QueryExpr

/-- A color with an alpha channel. -/
structure Color where
  red : UInt8
  green : UInt8
  blue : UInt8
  alpha : UInt8
  deriving DecidableEq, Repr, Inhabited

namespace Color

/-- One byte as two lower-case hexadecimal digits. -/
def hexByte (b : UInt8) : List Char :=
  [Nat.digitChar (b.toNat / 16), Nat.digitChar (b.toNat % 16)]

/-- The color as one number, red in the highest byte: the form in which it is stored. -/
def packed (c : Color) : Nat :=
  c.red.toNat * 0x1000000 + c.green.toNat * 0x10000 + c.blue.toNat * 0x100 + c.alpha.toNat

/-- `rrggbbaa`. -/
def hex (c : Color) : String :=
  String.ofList (hexByte c.red ++ hexByte c.green ++ hexByte c.blue ++ hexByte c.alpha)

/-- The color as a literal: `#rrggbb`, or `#rrggbbaa` if it is not opaque. -/
def literal (c : Color) : String :=
  String.ofList <|
    '#' :: hexByte c.red ++ hexByte c.green ++ hexByte c.blue ++
      (if c.alpha = 255 then [] else hexByte c.alpha)

/-- Reads the digits of a literal: one or two per channel, and an opaque color if the alpha channel
is left out. A single digit stands for the same digit twice. -/
def ofDigits? (digits : List Char) : Option Color :=
  match digits.mapM Text.hexDigit? with
  | some [r, g, b] => some ⟨.ofNat (17 * r), .ofNat (17 * g), .ofNat (17 * b), 255⟩
  | some [r, g, b, a] =>
    some ⟨.ofNat (17 * r), .ofNat (17 * g), .ofNat (17 * b), .ofNat (17 * a)⟩
  | some [r, r', g, g', b, b'] =>
    some ⟨.ofNat (16 * r + r'), .ofNat (16 * g + g'), .ofNat (16 * b + b'), 255⟩
  | some [r, r', g, g', b, b', a, a'] =>
    some ⟨.ofNat (16 * r + r'), .ofNat (16 * g + g'), .ofNat (16 * b + b'), .ofNat (16 * a + a')⟩
  | _ => none

end Color
end QueryExpr
