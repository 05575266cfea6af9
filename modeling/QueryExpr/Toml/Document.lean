import QueryExpr.Toml.Number
import QueryExpr.Toml.Table

/-!
# Reading configuration files

A file is a sequence of lines that open a table or set a key of the open table. Reading takes the text
apart into these statements first and then carries them out from the empty table. Every recursion here
uses up characters, so the number of characters bounds it.
-/

namespace QueryExpr.Toml

/-! ### Keys -/

/-- A character of a key without quotes. -/
def isBare (c : Char) : Bool :=
  c.isAlphanum || c = '_' || c = '-'

/-- One part of a key. -/
def readKeyPart? : List Char → Option (String × List Char)
  | [] => none
  | c :: cs =>
    if c = '"' ∨ c = '\'' then
      (lineBody c (c = '"') 0 cs).map fun (body, rest) => (String.ofList body, rest)
    else
      let bare := (c :: cs).takeWhile isBare
      if bare = [] then none else some (String.ofList bare, (c :: cs).drop bare.length)

/-- A key: parts with dots between them, split into the path and the last part. -/
def readKey? : Nat → List Char → Option ((List String × String) × List Char)
  | 0, _ => none
  | fuel + 1, cs => do
    let (part, cs) ← readKeyPart? cs
    match skipSpaces cs with
    | '.' :: cs =>
      let ((path, last), cs) ← readKey? fuel (skipSpaces cs)
      some ((part :: path, last), cs)
    | cs => some (([], part), cs)

/-- The equals sign behind a key, with the blanks around it. -/
def readEquals? (cs : List Char) : Option (List Char) :=
  match skipSpaces cs with
  | '=' :: cs => some (skipSpaces cs)
  | _ => none

/-! ### Values -/

/-- How deep values can be nested. -/
def maxDepth : Nat := 80

mutual

/-- A value; `depth` more levels may be nested in it. -/
def readValue? : Nat → Nat → List Char → Option (Value × List Char)
  | 0, _, _ => none
  | fuel + 1, depth, cs =>
    match cs, depth with
    | '"' :: cs, _ => (readString? '"' cs).map fun (s, rest) => (.scalar (.string s), rest)
    | '\'' :: cs, _ => (readString? '\'' cs).map fun (s, rest) => (.scalar (.string s), rest)
    | '[' :: _, 0 => none
    | '[' :: cs, depth + 1 =>
      (readItems? fuel depth cs).map fun (items, rest) => (.array items, rest)
    | '\x7b' :: _, 0 => none
    | '\x7b' :: cs, depth + 1 =>
      (readPairs? fuel depth { kind := .inline } cs).map fun (t, rest) => (t.toValue, rest)
    | cs, _ => (readScalar? cs).map fun (s, rest) => (.scalar s, rest)

/-- The items of an array, up to the closing bracket. -/
def readItems? : Nat → Nat → List Char → Option (List Value × List Char)
  | 0, _, _ => none
  | fuel + 1, depth, cs => do
    match ← skipFiller false cs with
    | ']' :: cs => some ([], cs)
    | cs =>
      let (v, cs) ← readValue? fuel depth cs
      match ← skipFiller false cs with
      | ',' :: cs =>
        let (vs, cs) ← readItems? fuel depth cs
        some (v :: vs, cs)
      | ']' :: cs => some ([v], cs)
      | _ => none

/-- The pairs of a table in braces, up to the closing brace. -/
def readPairs? : Nat → Nat → Table → List Char → Option (Table × List Char)
  | 0, _, _, _ => none
  | fuel + 1, depth, t, cs => do
    match ← skipFiller false cs with
    | '\x7d' :: cs => some (t, cs)
    | cs =>
      let ((path, key), cs) ← readKey? fuel cs
      let cs ← readEquals? cs
      let (v, cs) ← readValue? fuel depth cs
      let t ← t.setPath? path key v
      match ← skipFiller false cs with
      | ',' :: cs => readPairs? fuel depth t cs
      | '\x7d' :: cs => some (t, cs)
      | _ => none

end

/-! ### Statements -/

/-- A line of a file. -/
inductive Statement where
  /-- `[path.key]` -/
  | openTable (path : List String) (key : String)
  /-- `[[path.key]]` -/
  | openElement (path : List String) (key : String)
  /-- `path.key = value` -/
  | assign (path : List String) (key : String) (value : Value)

/-- One statement at the front of a text. -/
def readStatement? (fuel : Nat) : List Char → Option (Statement × List Char)
  | '[' :: '[' :: cs => do
    let ((path, key), cs) ← readKey? fuel (skipSpaces cs)
    match skipSpaces cs with
    | ']' :: ']' :: cs => some (.openElement path key, cs)
    | _ => none
  | '[' :: cs => do
    let ((path, key), cs) ← readKey? fuel (skipSpaces cs)
    match skipSpaces cs with
    | ']' :: cs => some (.openTable path key, cs)
    | _ => none
  | cs => do
    let ((path, key), cs) ← readKey? fuel cs
    let cs ← readEquals? cs
    let (v, cs) ← readValue? fuel maxDepth cs
    some (.assign path key v, cs)

/-- The statements of a text. -/
def readStatements? : Nat → List Char → Option (List Statement)
  | 0, _ => none
  | fuel + 1, cs => do
    match ← skipFiller false cs with
    | [] => some []
    | cs =>
      let (statement, cs) ← readStatement? (fuel + 1) cs
      let cs ← endLine cs
      let statements ← readStatements? fuel cs
      some (statement :: statements)

/-! ### Documents -/

/-- What has been read of a file: its root, and the path to the open table. -/
structure Document where
  root : Table := { kind := .explicit }
  current : List String := []

/-- Carry out a statement. -/
def Document.step? (d : Document) : Statement → Option Document
  | .openTable path key => do
    let root ← d.root.modifyAt? false (Table.openTable? key) path
    some ⟨root, path ++ [key]⟩
  | .openElement path key => do
    let root ← d.root.modifyAt? false (Table.openElement? key) path
    some ⟨root, path ++ [key]⟩
  | .assign path key v => do
    let root ← d.root.modifyAt? false (Table.setPath? path key v) d.current
    some { d with root }

/-- The text without a byte order mark. -/
def dropMark : List Char → List Char
  | '\uFEFF' :: cs => cs
  | cs => cs

/-- Reads a file. -/
def parse? (text : String) : Option Entries := do
  let cs := dropMark text.toList
  let statements ← readStatements? (cs.length + 2) cs
  let d ← statements.foldlM Document.step? {}
  some d.root.entries

end QueryExpr.Toml
