import QueryExpr.Rule.Registry
import QueryExpr.Text.Search

/-!
# Listings of rules

Rules are listed one to a line, or as a JSON array laid out on several lines.
-/

namespace QueryExpr.CommandLine

/-- A JSON value, without the kinds that listings do not need. -/
inductive Json where
  | str (text : String)
  | num (n : Nat)
  | arr (items : List Json)
  | obj (fields : List (String × Json))
  deriving Inhabited

namespace Json

/-- One character inside a JSON string. -/
def escapeChar (c : Char) : List Char :=
  if c = '"' then ['\\', '"']
  else if c = '\\' then ['\\', '\\']
  else if c = '\n' then ['\\', 'n']
  else if c = '\r' then ['\\', 'r']
  else if c = '\t' then ['\\', 't']
  else if c = '\x08' then ['\\', 'b']
  else if c = '\x0c' then ['\\', 'f']
  else if c.toNat < 0x20 then
    ['\\', 'u', '0', '0', Nat.digitChar (c.toNat / 16), Nat.digitChar (c.toNat % 16)]
  else [c]

/-- A JSON string. -/
def quoted (text : String) : String :=
  String.ofList ('"' :: text.toList.flatMap escapeChar ++ ['"'])

/-- The start of a line on this level. -/
def margin (level : Nat) : String := String.ofList (List.replicate (2 * level) ' ')

/-- Lines between brackets, with commas between them. -/
def bracketed (opening closing : String) (level : Nat) (lines : List String) : String :=
  if lines.isEmpty then opening ++ closing
  else
    opening ++ "\n" ++ ",\n".intercalate (lines.map (margin (level + 1) ++ ·)) ++ "\n" ++
      margin level ++ closing

mutual

/-- The text of a value, on a line of this level. -/
def pretty (level : Nat) : Json → String
  | .str text => quoted text
  | .num n => toString n
  | .arr items => bracketed "[" "]" level (prettyItems (level + 1) items)
  | .obj fields => bracketed "\x7b" "\x7d" level (prettyFields (level + 1) fields)

/-- The texts of the items of an array. -/
def prettyItems (level : Nat) : List Json → List String
  | [] => []
  | v :: vs => pretty level v :: prettyItems level vs

/-- The texts of the fields of an object. -/
def prettyFields (level : Nat) : List (String × Json) → List String
  | [] => []
  | (name, v) :: vs => (quoted name ++ ": " ++ pretty level v) :: prettyFields level vs

end

/-- A part of a template. -/
def ofPart : Part → Json
  | .literal text => .str text
  | .child index => .num index

/-- A rule. -/
def ofRule (r : Rule) : Json :=
  .obj <|
    [("nodetype", .str r.nodeType.name), ("result", .str r.result.name)] ++
    (match r.name with
      | some name => [("name", .str name)]
      | none => []) ++
    [("signature", .arr (r.signature.map fun t => .str t.name)),
     ("template", .arr (r.template.map ofPart)),
     ("vsqlsource", .str r.display)]

end Json

/-- Rules, one to a line. -/
def listText (rules : List Rule) : String :=
  String.join (rules.map fun r => r.nodeType.name ++ " " ++ r.display ++ "\n")

/-- Rules as JSON. -/
def listJson (rules : List Rule) : String := (Json.arr (rules.map Json.ofRule)).pretty 0 ++ "\n"

end QueryExpr.CommandLine
