/-!
# Searching and replacing

Plain-text replacement and splitting at a given text. A scan goes through the characters once; after
a match it passes over the rest of the matched characters, so matches never overlap.
-/

namespace QueryExpr.Text

/-- Replace `pattern` by `replacement`, after passing over `skip` characters that belong to the
match before. -/
def replaceFrom (pattern replacement : List Char) : Nat → List Char → List Char
  | _, [] => []
  | skip + 1, _ :: cs => replaceFrom pattern replacement skip cs
  | 0, c :: cs =>
    if pattern.isPrefixOf (c :: cs) then
      replacement ++ replaceFrom pattern replacement (pattern.length - 1) cs
    else c :: replaceFrom pattern replacement 0 cs

/-- Every occurrence of `pattern` replaced, from left to right and without overlap. -/
def replaceAll (pattern replacement text : String) : String :=
  String.ofList (replaceFrom pattern.toList replacement.toList 0 text.toList)

/-- What stands before and after the first occurrence of `pattern`. -/
def cutFirst (pattern : List Char) : List Char → Option (List Char × List Char)
  | [] => none
  | c :: cs =>
    if pattern.isPrefixOf (c :: cs) then some ([], (c :: cs).drop pattern.length)
    else (cutFirst pattern cs).map fun r => (c :: r.1, r.2)

/-- What stands before and after the last occurrence of the character `mark`. -/
def cutLast (mark : Char) (cs : List Char) : Option (List Char × List Char) :=
  (cutFirst [mark] cs.reverse).map fun r => (r.2.reverse, r.1.reverse)

/-- The parts between the occurrences of `mark`; always at least one part. -/
def splitAtChar (mark : Char) : List Char → List (List Char)
  | [] => [[]]
  | c :: cs =>
    if c = mark then [] :: splitAtChar mark cs
    else
      match splitAtChar mark cs with
      | [] => [[c]]
      | part :: rest => (c :: part) :: rest

end QueryExpr.Text
