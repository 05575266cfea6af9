import QueryExpr.Text.Hex

/-!
# Blanks, comments and strings

Strings come in four forms: between double quotes with escapes or between single quotes without, each
on one line or, with three quotes, on several.
-/

namespace QueryExpr.Toml

/-- Blanks inside a line. -/
def isSpace (c : Char) : Bool := c = ' ' || c = '\t'

/-- A character that may stand in comments and strings: no control character but the tabulator. -/
def isPlain (c : Char) : Bool := c = '\t' || (0x20 ≤ c.toNat && c.toNat ≠ 0x7f)

/-- What follows the blanks of a line. -/
def skipSpaces (cs : List Char) : List Char := cs.dropWhile isSpace

/-- What follows blanks, line breaks and comments; `inComment` says that a comment is going on. -/
def skipFiller : Bool → List Char → Option (List Char)
  | _, [] => some []
  | _, '\r' :: '\n' :: cs => skipFiller false cs
  | inComment, c :: cs =>
    if c = '\n' then skipFiller false cs
    else if inComment then (if isPlain c then skipFiller true cs else none)
    else if isSpace c then skipFiller false cs
    else if c = '#' then skipFiller true cs
    else if c = '\r' then none
    else some (c :: cs)

/-- What follows the end of a line: only blanks and a comment may stand before it. -/
def endLine (cs : List Char) : Option (List Char) :=
  let rest :=
    match skipSpaces cs with
    | '#' :: comment => comment.dropWhile isPlain
    | rest => rest
  match rest with
  | [] => some []
  | '\n' :: cs => some cs
  | '\r' :: '\n' :: cs => some cs
  | _ => none

/-! ### Escapes -/

/-- The character with the code point that `count` hexadecimal digits give. -/
def codePoint? (count : Nat) (cs : List Char) : Option Char := do
  let digits ← (cs.take count).mapM Text.hexDigit?
  let n := digits.foldl (fun n d => 16 * n + d) 0
  if digits.length = count ∧ n.isValidChar then some (Char.ofNat n) else none

/-- The character that an escape denotes, and the number of characters behind the backslash. -/
def escape? : List Char → Option (Char × Nat)
  | 'b' :: _ => some ('\x08', 1)
  | 't' :: _ => some ('\t', 1)
  | 'n' :: _ => some ('\n', 1)
  | 'f' :: _ => some ('\x0c', 1)
  | 'r' :: _ => some ('\r', 1)
  | 'e' :: _ => some ('\x1b', 1)
  | '"' :: _ => some ('"', 1)
  | '\\' :: _ => some ('\\', 1)
  | 'x' :: cs => (codePoint? 2 cs).map fun c => (c, 3)
  | 'u' :: cs => (codePoint? 4 cs).map fun c => (c, 5)
  | 'U' :: cs => (codePoint? 8 cs).map fun c => (c, 9)
  | _ => none

/-! ### Strings -/

/-- The body of a string on one line, after passing over `skip` characters of an escape: the text up
to the closing quote, and what follows it. -/
def lineBody (quote : Char) (escapes : Bool) : Nat → List Char → Option (List Char × List Char)
  | _, [] => none
  | skip + 1, _ :: cs => lineBody quote escapes skip cs
  | 0, c :: cs =>
    if c = quote then some ([], cs)
    else if escapes ∧ c = '\\' then do
      let (e, count) ← escape? cs
      let (body, rest) ← lineBody quote escapes count cs
      some (e :: body, rest)
    else if isPlain c then do
      let (body, rest) ← lineBody quote escapes 0 cs
      some (c :: body, rest)
    else none

/-- The number of blanks and line breaks at the front of a text. -/
def fillerLength : List Char → Nat
  | '\r' :: '\n' :: cs => 2 + fillerLength cs
  | c :: cs => if isSpace c || c = '\n' then 1 + fillerLength cs else 0
  | [] => 0

/-- The text goes on with a line break after any blanks. -/
def breaksLine (cs : List Char) : Bool :=
  match skipSpaces cs with
  | '\n' :: _ | '\r' :: '\n' :: _ => true
  | _ => false

/-- The body of a string on several lines. Two quotes may stand inside it, also at its very end. A
backslash at the end of a line joins it with what follows the blanks after it. -/
def linesBody (quote : Char) (escapes : Bool) : Nat → List Char → Option (List Char × List Char)
  | _, [] => none
  | skip + 1, _ :: cs => linesBody quote escapes skip cs
  | 0, c :: cs =>
    let quotes := ((c :: cs).takeWhile (· = quote)).length
    if 3 ≤ quotes then
      let kept := min quotes 5
      some (List.replicate (kept - 3) quote, (c :: cs).drop kept)
    else if escapes ∧ c = '\\' then
      if breaksLine cs then linesBody quote escapes (fillerLength cs) cs
      else do
        let (e, count) ← escape? cs
        let (body, rest) ← linesBody quote escapes count cs
        some (e :: body, rest)
    else if isPlain c || c = '\n' || (c = '\r' && cs.head? = some '\n') then do
      let (body, rest) ← linesBody quote escapes 0 cs
      some (c :: body, rest)
    else none

/-- The text without a line break at its front. -/
def dropLineBreak : List Char → List Char
  | '\n' :: cs => cs
  | '\r' :: '\n' :: cs => cs
  | cs => cs

/-- A string at the front of a text, after its first quote. -/
def readString? (quote : Char) (cs : List Char) : Option (String × List Char) :=
  let escapes := quote = '"'
  let read :=
    if [quote, quote].isPrefixOf cs then linesBody quote escapes 0 (dropLineBreak (cs.drop 2))
    else lineBody quote escapes 0 cs
  read.map fun (body, rest) => (String.ofList body, rest)

end QueryExpr.Toml
