import QueryExpr.Text.Quoted

/-!
# Tokens

The words of an expression. String literals carry the text they denote; numbers, dates and colors
are carried as written, so that a literal without a value can still become a node of its own.
-/

namespace QueryExpr

/-- The reserved words. -/
inductive Keyword where
  | noneValue
  | trueValue
  | falseValue
  | and
  | or
  | not
  | inside
  | is
  | ifWord
  | elseWord
  deriving DecidableEq, Repr, Inhabited

namespace Keyword

/-- All reserved words. -/
def all : List Keyword :=
  [.noneValue, .trueValue, .falseValue, .and, .or, .not, .inside, .is, .ifWord, .elseWord]

/-- The word. -/
def text : Keyword → String
  | .noneValue => "None"
  | .trueValue => "True"
  | .falseValue => "False"
  | .and => "and"
  | .or => "or"
  | .not => "not"
  | .inside => "in"
  | .is => "is"
  | .ifWord => "if"
  | .elseWord => "else"

/-- The reserved word with this text. -/
def ofText? (text : String) : Option Keyword := all.find? fun k => k.text = text

end Keyword

/-- Brackets, separators and operator signs. -/
inductive Symbol where
  | lparen
  | rparen
  | lbracket
  | rbracket
  | lbrace
  | rbrace
  | comma
  | dot
  | colon
  | assign
  | plus
  | minus
  | star
  | starStar
  | slash
  | slashSlash
  | percent
  | tilde
  | amp
  | pipe
  | caret
  | shiftLeft
  | shiftRight
  | eqEq
  | ne
  | lt
  | le
  | gt
  | ge
  deriving DecidableEq, Repr, Inhabited

namespace Symbol

/-- The signs of two characters, which are tried before those of one. -/
def twoChars : List Symbol :=
  [.starStar, .slashSlash, .shiftLeft, .shiftRight, .eqEq, .ne, .le, .ge]

/-- The signs of one character. -/
def oneChar : List Symbol :=
  [.lparen, .rparen, .lbracket, .rbracket, .lbrace, .rbrace, .comma, .dot, .colon, .assign, .plus,
   .minus, .star, .slash, .percent, .tilde, .amp, .pipe, .caret, .lt, .gt]

/-- The characters of the sign. -/
def chars : Symbol → List Char
  | .lparen => ['(']
  | .rparen => [')']
  | .lbracket => ['[']
  | .rbracket => [']']
  | .lbrace => ['\x7b']
  | .rbrace => ['\x7d']
  | .comma => [',']
  | .dot => ['.']
  | .colon => [':']
  | .assign => ['=']
  | .plus => ['+']
  | .minus => ['-']
  | .star => ['*']
  | .starStar => ['*', '*']
  | .slash => ['/']
  | .slashSlash => ['/', '/']
  | .percent => ['%']
  | .tilde => ['~']
  | .amp => ['&']
  | .pipe => ['|']
  | .caret => ['^']
  | .shiftLeft => ['<', '<']
  | .shiftRight => ['>', '>']
  | .eqEq => ['=', '=']
  | .ne => ['!', '=']
  | .lt => ['<']
  | .le => ['<', '=']
  | .gt => ['>']
  | .ge => ['>', '=']

/-- The sign at the front of a text. -/
def atFront? (cs : List Char) : Option Symbol :=
  (twoChars ++ oneChar).find? fun s => s.chars.isPrefixOf cs

end Symbol

/-- A token of an expression. -/
inductive Token where
  /-- A reserved word. -/
  | keyword (word : Keyword)
  /-- A name. -/
  | ident (name : String)
  /-- An integer as written, with its radix mark. -/
  | int (text : String)
  /-- A number with a fraction or an exponent, as written. -/
  | float (text : String)
  /-- The text that a string literal denotes. -/
  | str (value : String)
  /-- What stands inside `@(…)`. -/
  | date (text : String)
  /-- A color as written, with its `#`. -/
  | color (text : String)
  /-- A sign. -/
  | symbol (sign : Symbol)
  deriving DecidableEq, Repr, Inhabited

namespace Token

/-- The token as a message shows it. -/
def describe : Token → String
  | .keyword word => word.text
  | .ident text | .int text | .float text | .color text => text
  | .str value => Text.quoted value
  | .date text => "@(" ++ text ++ ")"
  | .symbol sign => String.ofList sign.chars

/-- A name, or the reserved word of that spelling. -/
def ofWord (word : String) : Token :=
  match Keyword.ofText? word with
  | some k => .keyword k
  | none => .ident word

end Token

/-- A token with the bytes of the source that it takes up. -/
structure Lexeme where
  token : Token
  /-- Offset of the first byte. -/
  start : Nat
  /-- Offset after the last byte. -/
  stop : Nat
  deriving DecidableEq, Repr, Inhabited

end QueryExpr
