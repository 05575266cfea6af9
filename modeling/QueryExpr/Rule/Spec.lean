import QueryExpr.Number.Reading
import QueryExpr.Rule.Basic
import QueryExpr.Text.Blank
import QueryExpr.Text.Letter
import QueryExpr.Text.Search
import QueryExpr.Text.Word

/-!
# Rule specifications

Rules are written in a compact notation that covers many of them at once:

* `INT <- BOOL_INT + BOOL_INT` stands for four rules, one for each choice of operand types;
* `T1 <- STR_CLOB.lower()` gives the result the type chosen at position 1;
* `DATE <- date(INT, INT, INT)` has a name, which is a word that is not all upper case.

A specification is read as its words, in order. A word in upper case is a union of types and
references `T<k>`; position 0 is the result, and names are not counted. Every choice of one member
for each word is a combination, and every combination gives one rule.
-/

namespace QueryExpr

/-- What is wrong with a specification. -/
inductive SpecError where
  /-- The word is no type. -/
  | unknownType (word : String)
  /-- The specification does not begin with a type. -/
  | missingResult (spec : String)
  /-- The reference points at another reference. -/
  | refToRef (position : Nat)
  /-- The reference points at no type. -/
  | refOutOfRange (position : Nat)
  /-- The template has a placeholder for an operand that is not there. -/
  | placeholder (kind : Char) (index length : Nat)
  deriving DecidableEq, Repr, Inhabited

namespace SpecError

/-- What is wrong, in words. -/
def message : SpecError → String
  | .unknownType word => "Unknown datatype `" ++ word ++ "` in rule spec"
  | .missingResult spec => "Rule spec `" ++ spec ++ "` has no result type"
  | .refToRef position =>
    "Type reference T" ++ toString position ++ " refers to another type reference"
  | .refOutOfRange position => "Type reference T" ++ toString position ++ " is out of range"
  | .placeholder kind index length =>
    "Placeholder \x7b" ++ kind.toString ++ toString index ++
      "\x7d is out of range for a signature of length " ++ toString length

end SpecError

namespace Spec

/-- One member of a word. -/
inductive Member where
  /-- A type. -/
  | type (type : DataType)
  /-- The type chosen at another position. -/
  | ref (position : Nat)
  /-- The name of a function, method or attribute. -/
  | name (name : String)
  deriving DecidableEq, Repr, Inhabited

/-! ### Words -/

/-- The maximal runs of word characters and of other characters; the flag marks the words. -/
def runs : List Char → List (Bool × List Char)
  | [] => []
  | c :: cs =>
    match runs cs with
    | (isWord, run) :: rest =>
      if isWord = Text.isWordChar c then (isWord, c :: run) :: rest
      else (Text.isWordChar c, [c]) :: (isWord, run) :: rest
    | [] => [(Text.isWordChar c, [c])]

/-- The words of a text. -/
def words (cs : List Char) : List (List Char) := ((runs cs).filter Prod.fst).map Prod.snd

/-- The word has letters and none of them is lower case. -/
def isUpper (word : List Char) : Bool := word.any Text.isAlphabetic && !word.any Text.isLowercase

/-- The position that a word of the form `T<k>` refers to. Positions have to fit into a machine
word. -/
def refPosition? : List Char → Option Nat
  | 'T' :: digits =>
    if digits ≠ [] ∧ digits.all isAsciiDigit ∧ digitsValue digits < UInt64.size then
      some (digitsValue digits)
    else none
  | _ => none

/-- One member of a union: a reference or a type. -/
def member (word : List Char) : Except SpecError Member :=
  match refPosition? word with
  | some k => .ok (.ref k)
  | none =>
    match DataType.ofExactName? (String.ofList word) with
    | some t => .ok (.type t)
    | none => .error (.unknownType (String.ofList word))

/-- The members of a word: those of a union in upper case, or one name. -/
def members (word : List Char) : Except SpecError (List Member) :=
  if isUpper word then (Text.splitAtChar '_' word).mapM member
  else .ok [.name (String.ofList word)]

/-- The words of a specification, each with its members. -/
def parse (spec : String) : Except SpecError (List (List Member)) :=
  (words spec.toList).mapM members

/-! ### Combinations -/

/-- All choices of one member for each word, the first word varying slowest. -/
def combinations : List (List Member) → List (List Member)
  | [] => [[]]
  | group :: groups => group.flatMap fun m => (combinations groups).map (m :: ·)

/-- The word is a name. -/
def isName : List Member → Bool
  | [.name _] => true
  | _ => false

/-- The place of the name among the words. -/
def namePosition? (groups : List (List Member)) : Option Nat := groups.findIdx? isName

/-- The place among the words of the type at a position: places from the name on are shifted by
one. Positions are machine words, so the largest one is shifted to the front. -/
def place (namePosition : Option Nat) (position : Nat) : Nat :=
  match namePosition with
  | some p => if 0 < p ∧ p ≤ position then (position + 1) % UInt64.size else position
  | none => position

/-- A member with its reference looked up in the combination; never a reference. -/
def resolveMember (combination : List Member) (namePosition : Option Nat) :
    Member → Except SpecError Member
  | .ref k =>
    match combination[place namePosition k]? with
    | some (.type t) => .ok (.type t)
    | some (.ref _) => .error (.refToRef k)
    | _ => .error (.refOutOfRange k)
  | m => .ok m

/-- The combination with its references looked up. -/
def resolve (combination : List Member) (namePosition : Option Nat) :
    Except SpecError (List Member) :=
  combination.mapM (resolveMember combination namePosition)

/-- The types among the members, in order. -/
def types (items : List Member) : List DataType :=
  items.filterMap fun
    | .type t => some t
    | _ => none

/-- The last name among the members. -/
def lastName? (items : List Member) : Option String :=
  (items.filterMap fun
    | .name n => some n
    | _ => none).getLast?

/-! ### Display -/

/-- The word consists of the characters that types are written with. -/
def isTypeWord (word : List Char) : Bool :=
  word.all fun c => ('A' ≤ c && c ≤ 'Z') || c = '_' || ('0' ≤ c && c ≤ '9')

/-- Put concrete types in the place of the type words, in order. -/
def fillTypes : List (Bool × List Char) → List DataType → List Char
  | [], _ => []
  | (_, run) :: rest, [] => run ++ fillTypes rest []
  | (isWord, run) :: rest, t :: ts =>
    if isWord && isTypeWord run then t.name.toList ++ fillTypes rest ts
    else run ++ fillTypes rest (t :: ts)

/-- Put operator words in the place of the question marks, in order. -/
def fillOperators : List String → List Char → List Char
  | _, [] => []
  | [], cs => cs
  | w :: ws, c :: cs =>
    if c = '?' then w.toList ++ fillOperators ws cs else c :: fillOperators (w :: ws) cs

/-- A rule in the notation of its specification, with concrete types and operator words. -/
def display (nodeType : NodeType) (spec : String) (result : DataType) (signature : List DataType) :
    String :=
  let right :=
    match Text.cutFirst "<-".toList spec.toList with
    | some (_, right) => right
    | none => []
  let filled := fillOperators nodeType.operatorWords (fillTypes (runs right) signature)
  let shown := Text.trim filled
  if shown = [] then result.name else result.name ++ " <- " ++ String.ofList shown

end Spec
end QueryExpr
