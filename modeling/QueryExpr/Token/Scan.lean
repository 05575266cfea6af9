import QueryExpr.Token.Basic
import QueryExpr.Number.Reading
import QueryExpr.Text.Hex
import QueryExpr.Text.Blank
import QueryExpr.Text.Identifier
import QueryExpr.Text.Slice

/-!
# Scanning a text into tokens

`Token.atFront?` finds the token at the front of a text and the number of characters it takes up.
The forms of a token are tried in order: name, string, number, date, color, sign; the radix form of
an integer comes before the others, a number with a fraction or an exponent before an integer, and
signs of two characters before signs of one.

`Token.scan` goes through the text once. At a character that begins no token it fails; inside a token
it counts off the characters that the token has left.
-/

namespace QueryExpr

namespace Token

/-! ### Names -/

/-- The length of the name at the front. -/
def identLength : List Char → Nat
  | [] => 0
  | c :: cs =>
    if Text.isIdentStart c then 1 + (cs.takeWhile Text.isIdentContinue).length else 0

/-! ### Strings -/

/-- The character with this code point. -/
def charOfCode? (code : Nat) : Option Char :=
  if code.isValidChar then some (Char.ofNat code) else none

/-- The character written by exactly `count` hexadecimal digits. -/
def hexEscape? (count : Nat) (cs : List Char) : Option Char :=
  let digits := cs.take count
  if digits.length = count then
    (digits.mapM Text.hexDigit?).bind fun ds => charOfCode? (ds.foldl (fun n d => 16 * n + d) 0)
  else none

/-- The character that an escape denotes, given what follows the backslash, and the number of
characters that the escape takes up there. -/
def escape? : List Char → Option (Char × Nat)
  | [] => none
  | c :: cs =>
    if c = '\\' ∨ c = '\'' ∨ c = '"' then some (c, 1)
    else if c = 'a' then some ('\x07', 1)
    else if c = 'b' then some ('\x08', 1)
    else if c = 'f' then some ('\x0c', 1)
    else if c = 'n' then some ('\n', 1)
    else if c = 'r' then some ('\r', 1)
    else if c = 't' then some ('\t', 1)
    else if c = 'x' then (hexEscape? 2 cs).map fun d => (d, 3)
    else if c = 'u' then (hexEscape? 4 cs).map fun d => (d, 5)
    else if c = 'U' then (hexEscape? 8 cs).map fun d => (d, 9)
    else none

/-- The text of a string up to its closing quote, and the number of characters including that quote,
after passing over `skip` characters of an escape. A line break ends no string and is no part of
one. -/
def stringBody? (quote : Char) : Nat → List Char → Option (List Char × Nat)
  | _, [] => none
  | skip + 1, _ :: cs => (stringBody? quote skip cs).map fun r => (r.1, r.2 + 1)
  | 0, c :: cs =>
    if c = quote then some ([], 1)
    else if c = '\\' then
      match escape? cs with
      | none => none
      | some (d, n) => (stringBody? quote n cs).map fun r => (d :: r.1, r.2 + 1)
    else if c = '\n' then none
    else (stringBody? quote 0 cs).map fun r => (c :: r.1, r.2 + 1)

/-- The string literal at the front. -/
def string? : List Char → Option (Token × Nat)
  | [] => none
  | c :: cs =>
    if c = '\'' ∨ c = '"' then
      (stringBody? c 0 cs).map fun r => (.str (String.ofList r.1), r.2 + 1)
    else none

/-! ### Numbers -/

/-- The length of a run of decimal digits at the front. -/
def digitRun (cs : List Char) : Nat := (cs.takeWhile isAsciiDigit).length

/-- The length of an exponent at the front; zero if there is none. -/
def exponentLength : List Char → Nat
  | [] => 0
  | e :: cs =>
    if e = 'e' ∨ e = 'E' then
      match cs with
      | [] => 0
      | s :: ds =>
        if s = '+' ∨ s = '-' then (if digitRun ds = 0 then 0 else 2 + digitRun ds)
        else if digitRun cs = 0 then 0 else 1 + digitRun cs
    else 0

/-- The length of an integer with a radix mark at the front; zero if there is none. -/
def radixLength : List Char → Nat
  | '0' :: mark :: cs =>
    let digits := (cs.takeWhile Text.isHexDigit).length
    if mark ∈ ['x', 'X', 'o', 'O', 'b', 'B'] ∧ digits ≠ 0 then 2 + digits else 0
  | _ => 0

/-- The length of a fraction at the front, its point included; zero if there is none. -/
def fractionLength : List Char → Nat
  | '.' :: cs => if digitRun cs = 0 then 0 else 1 + digitRun cs
  | _ => 0

/-- The number at the front. -/
def number? (cs : List Char) : Option (Token × Nat) :=
  if radixLength cs ≠ 0 then some (.int (String.ofList (cs.take (radixLength cs))), radixLength cs)
  else if digitRun cs = 0 then none
  else
    let whole := digitRun cs
    let fraction := fractionLength (cs.drop whole)
    let exponent := exponentLength (cs.drop (whole + fraction))
    let length := whole + fraction + exponent
    let text := String.ofList (cs.take length)
    if fraction + exponent = 0 then some (.int text, length) else some (.float text, length)

/-! ### Dates, colors and signs -/

/-- The date literal at the front: `@(` up to the next closing parenthesis. -/
def date? : List Char → Option (Token × Nat)
  | '@' :: '(' :: cs =>
    let inner := cs.takeWhile (· ≠ ')')
    if inner.length < cs.length then some (.date (String.ofList inner), inner.length + 3) else none
  | _ => none

/-- The color literal at the front: `#` with the ASCII letters and digits that follow. -/
def color? : List Char → Option (Token × Nat)
  | '#' :: cs =>
    let digits := cs.takeWhile Char.isAlphanum
    some (.color (String.ofList ('#' :: digits)), digits.length + 1)
  | _ => none

/-- The name or reserved word at the front. -/
def word? (cs : List Char) : Option (Token × Nat) :=
  if identLength cs = 0 then none
  else some (.ofWord (String.ofList (cs.take (identLength cs))), identLength cs)

/-- The sign at the front. -/
def symbol? (cs : List Char) : Option (Token × Nat) :=
  (Symbol.atFront? cs).map fun s => (.symbol s, s.chars.length)

/-- The token at the front, with the number of characters it takes up. -/
def atFront? (cs : List Char) : Option (Token × Nat) :=
  (word? cs).or <| (string? cs).or <| (number? cs).or <| (date? cs).or <| (color? cs).or (symbol? cs)

/-! ### The scan -/

/-- The tokens of a text that begins at byte `offset`, after passing over the `skip` characters that
the token before has left. The failure is the offset of a character that begins no token. -/
def scanFrom : Nat → Nat → List Char → Except Nat (List Lexeme)
  | _, _, [] => .ok []
  | skip + 1, offset, c :: cs => scanFrom skip (offset + c.utf8Size) cs
  | 0, offset, c :: cs =>
    if Text.isBlank c then scanFrom 0 (offset + c.utf8Size) cs
    else
      match atFront? (c :: cs) with
      | some (token, n + 1) =>
        let stop := offset + Text.byteLength ((c :: cs).take (n + 1))
        (scanFrom n (offset + c.utf8Size) cs).map (⟨token, offset, stop⟩ :: ·)
      | _ => .error offset

/-- The tokens of a source text with their byte positions, or the offset at which no token begins. -/
def scan (source : String) : Except Nat (List Lexeme) := scanFrom 0 0 source.toList

end Token
end QueryExpr
