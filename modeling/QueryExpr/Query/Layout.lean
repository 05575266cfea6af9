/-!
# Layout of a statement

A statement is laid out as texts, line breaks and changes of the level of indentation. With an
indentation the lines are indented by their level; without one everything goes on one line.
-/

namespace QueryExpr

/-- An element of a layout. -/
inductive Layout where
  | text (text : String)
  | newline
  | indent
  | dedent
  deriving DecidableEq, Repr, Inhabited

namespace Layout

/-- A text on a line of its own. -/
def line (s : String) : List Layout := [.text s, .newline]

/-- The items of a clause, each but the last with the separator behind it. -/
def items (separator : String) : List String → List Layout
  | [] => []
  | [item] => [.text item]
  | item :: rest => .text item :: .text separator :: .newline :: items separator rest

/-- A keyword, and the items that belong to it on indented lines. -/
def clause (keyword separator : String) (list : List String) : List Layout :=
  [.text keyword, .newline, .indent] ++ items separator list ++ [.newline, .dedent]

/-- What stands before the first text of a line. -/
def lineStart (indentation : String) (level : Nat) (out : String) : String :=
  if indentation = "" then (if out = "" then "" else " ")
  else String.join (List.replicate level indentation)

/-- Write the elements after `out`, on the given level; `first` says that the line is still empty. -/
def writeFrom (indentation : String) : String → Nat → Bool → List Layout → String
  | out, _, _, [] => out
  | out, level, first, .text s :: rest =>
    let out := if first then out ++ lineStart indentation level out else out
    writeFrom indentation (out ++ s) level false rest
  | out, level, _, .newline :: rest =>
    writeFrom indentation (if indentation = "" then out else out ++ "\n") level true rest
  | out, level, first, .indent :: rest => writeFrom indentation out (level + 1) first rest
  | out, level, first, .dedent :: rest => writeFrom indentation out (level - 1) first rest

/-- The text without line breaks at its end. -/
def trimNewlines (s : String) : String :=
  String.ofList (s.toList.reverse.dropWhile (· = '\n')).reverse

/-- Write the elements, without line breaks at the end. -/
def write (indentation : String) (elements : List Layout) : String :=
  trimNewlines (writeFrom indentation "" 0 true elements)

end Layout
end QueryExpr
