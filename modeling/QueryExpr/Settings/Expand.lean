import QueryExpr.Text.Numeral

/-!
# Environment variables in texts

A text refers to environment variables as `$NAME` or `${NAME}`. Each reference is replaced by the
value of the variable, which is not expanded again. A `$` without a name stands for itself.
-/

namespace QueryExpr

/-- The values of the environment variables. -/
abbrev Environment := String → Option String

namespace Environment

/-- The value of a variable. No variable has an equals sign or a null character in its name. -/
def value? (env : Environment) (name : String) : Option String :=
  if name.toList.any fun c => c = '=' || c = '\x00' then none else env name

/-- A character of a name without braces. -/
def isNameChar (c : Char) : Bool := Text.isAlphanumeric c || c = '_'

/-- The name behind a `$`, and the number of characters that it takes up with its braces. -/
def nameAfter : List Char → List Char × Nat
  | '\x7b' :: cs =>
    let name := cs.takeWhile (· ≠ '\x7d')
    (name, name.length + 2)
  | cs =>
    let name := cs.takeWhile isNameChar
    (name, name.length)

/-- Expand a text, after passing over `skip` characters of a reference. The error is the name of the
first variable that is missing. -/
def expandFrom (env : Environment) : Nat → List Char → Except String (List Char)
  | _, [] => .ok []
  | skip + 1, _ :: cs => expandFrom env skip cs
  | 0, c :: cs =>
    if c = '$' then
      match nameAfter cs with
      | ([], count) => (expandFrom env count cs).map ('$' :: ·)
      | (name, count) =>
        match env.value? (String.ofList name) with
        | none => .error (String.ofList name)
        | some value => (expandFrom env count cs).map (value.toList ++ ·)
    else (expandFrom env 0 cs).map (c :: ·)

/-- Expand a text. -/
def expand (env : Environment) (text : String) : Except String String :=
  (expandFrom env 0 text.toList).map String.ofList

/-- The names of the variables that a text refers to, after passing over `skip` characters. -/
def referencesFrom : Nat → List Char → List String
  | _, [] => []
  | skip + 1, _ :: cs => referencesFrom skip cs
  | 0, c :: cs =>
    if c = '$' then
      match nameAfter cs with
      | ([], count) => referencesFrom count cs
      | (name, count) => String.ofList name :: referencesFrom count cs
    else referencesFrom 0 cs

/-- The names of the variables that a text refers to. -/
def references (text : String) : List String := referencesFrom 0 text.toList

end Environment
end QueryExpr
