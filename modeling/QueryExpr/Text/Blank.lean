import QueryExpr.Text.Ranges

/-!
# White space

The characters that separate tokens: those with the Unicode property White_Space. The no-break
spaces and the line and paragraph separators belong to it, the zero-width space does not.
-/

namespace QueryExpr.Text

/-- The code points with the property White_Space. -/
def blankRanges : List (Nat × Nat) :=
  [(0x9, 0xD), (0x20, 0x20), (0x85, 0x85), (0xA0, 0xA0), (0x1680, 0x1680), (0x2000, 0x200A),
   (0x2028, 0x2029), (0x202F, 0x202F), (0x205F, 0x205F), (0x3000, 0x3000)]

/-- White space in the sense of Unicode. -/
def isBlank (c : Char) : Bool := inRanges blankRanges c

/-- The text without the blanks at its front. -/
def trimLeft (cs : List Char) : List Char := cs.dropWhile isBlank

/-- The text without the blanks at either end. -/
def trim (cs : List Char) : List Char := (trimLeft (trimLeft cs).reverse).reverse

end QueryExpr.Text
