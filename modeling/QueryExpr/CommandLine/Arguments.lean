import QueryExpr.Number.Reading
import QueryExpr.Text.Search

/-!
# Arguments of the command line

The arguments name a command and its options. An option takes one value, as the next argument or
joined to its name; a value that is an argument of its own must not look like an option. Arguments are
read from left to right, and the first one that does not fit ends the reading.
-/

namespace QueryExpr.CommandLine

/-- The form in which rules are listed. -/
inductive Format where
  | text
  | json
  deriving DecidableEq, Repr, Inhabited

/-- What a query is to be made of. -/
structure Request where
  registers : List String := []
  selects : List String := []
  /-- Aggregations, each with its expression behind a colon. -/
  aggregates : List String := []
  conditions : List String := []
  /-- Expressions to order by, perhaps with a direction behind a colon. -/
  orders : List String := []
  limit : Option Nat := none
  offset : Option Nat := none
  comment : Option String := none
  deriving DecidableEq, Repr, Inhabited

/-- What there is help about. -/
inductive Topic where
  | program
  | compile
  | check
  | rules
  deriving DecidableEq, Repr, Inhabited

/-- What the command line asks for. -/
inductive Command where
  /-- Make a query. -/
  | compile (schema : String) (config : Option String) (request : Request)
  /-- Check the type of an expression. -/
  | check (expr : String) (schema type : Option String)
  /-- List rules. -/
  | rules (format : Format) (nodeType : Option String)
  /-- Print the version. -/
  | version
  /-- Print help, at length or in short. -/
  | help (topic : Topic) (long : Bool)
  deriving DecidableEq, Repr, Inhabited

/-! ### Options -/

/-- An option with a value. -/
structure Flag where
  name : String
  /-- The letter of the short form. -/
  letter : Option Char := none
  /-- The option may be given again and again. -/
  repeats : Bool := false
  /-- The value fits. -/
  accepts : String → Bool := fun _ => true

/-- A number of 64 bits; a plus sign may stand before it. -/
def number? (text : String) : Option Nat :=
  let digits :=
    match text.toList with
    | '+' :: cs => cs
    | cs => cs
  if digits ≠ [] ∧ digits.all isAsciiDigit ∧ digitsValue digits < UInt64.size then
    some (digitsValue digits)
  else none

/-- The form of this name. -/
def format? (text : String) : Option Format :=
  if text = "text" then some .text else if text = "json" then some .json else none

/-- Paths are not empty. -/
def isPath (text : String) : Bool := text ≠ ""

/-- The options for making a query. -/
def compileOptions : List Flag :=
  [{ name := "schema", letter := some 's', accepts := isPath },
   { name := "config", letter := some 'c', accepts := isPath },
   { name := "select", repeats := true },
   { name := "aggregate", repeats := true },
   { name := "where", repeats := true },
   { name := "orderby", repeats := true },
   { name := "register", repeats := true },
   { name := "limit", accepts := fun v => (number? v).isSome },
   { name := "offset", accepts := fun v => (number? v).isSome },
   { name := "comment" }]

/-- The options for checking an expression. -/
def checkOptions : List Flag :=
  [{ name := "schema", letter := some 's', accepts := isPath },
   { name := "type", letter := some 't' }]

/-- The options for listing rules. -/
def rulesOptions : List Flag :=
  [{ name := "format", letter := some 'f', accepts := fun v => (format? v).isSome },
   { name := "nodetype", letter := some 'n' }]

/-! ### Reading -/

/-- Why the reading ends before the last argument. -/
inductive Stop where
  /-- The arguments do not fit. -/
  | usage
  /-- Help is asked for, at length or in short. -/
  | help (long : Bool)
  deriving DecidableEq, Repr, Inhabited

/-- What has been read. -/
structure Parsed where
  /-- The options with their values, in order. -/
  options : List (String × String) := []
  positionals : List String := []
  deriving DecidableEq, Repr, Inhabited

namespace Parsed

/-- The values of an option. -/
def values (p : Parsed) (name : String) : List String :=
  (p.options.filter fun o => o.1 = name).map Prod.snd

/-- The value of an option. -/
def value? (p : Parsed) (name : String) : Option String := (p.values name).head?

/-- Add an option. -/
def addOption (p : Parsed) (o : Flag) (value : String) : Except Stop Parsed :=
  if o.accepts value && (o.repeats || (p.values o.name).isEmpty) then
    .ok { p with options := p.options ++ [(o.name, value)] }
  else .error .usage

/-- Add arguments that belong to no option, if there is room for them. -/
def addPositionals (p : Parsed) (room : Nat) (args : List String) : Except Stop Parsed :=
  if p.positionals.length + args.length ≤ room then
    .ok { p with positionals := p.positionals ++ args }
  else .error .usage

end Parsed

/-- The form of an argument. -/
inductive Shape where
  /-- `--`: what follows belongs to no option. -/
  | separator
  /-- `--name` or `--name=value` -/
  | long (name : String) (value : Option String)
  /-- `-x`, perhaps with a value joined to it. -/
  | short (letter : Char) (value : Option String)
  | plain
  deriving DecidableEq, Repr, Inhabited

/-- The form of an argument. -/
def shape (arg : String) : Shape :=
  match arg.toList with
  | ['-', '-'] => .separator
  | '-' :: '-' :: name =>
    match Text.cutFirst ['='] name with
    | some (name, value) => .long (String.ofList name) (some (String.ofList value))
    | none => .long (String.ofList name) none
  | ['-', letter] => .short letter none
  | '-' :: letter :: '=' :: value => .short letter (some (String.ofList value))
  | '-' :: letter :: value => .short letter (some (String.ofList value))
  | _ => .plain

/-- The option that an argument names, with the value joined to it. -/
def named? (options : List Flag) (arg : Shape) : Option (Flag × Option String) :=
  match arg with
  | .long name value => (options.find? fun o => o.name = name).map fun o => (o, value)
  | .short letter value => (options.find? fun o => o.letter = some letter).map fun o => (o, value)
  | _ => none

/-- Help that an argument asks for. -/
def asksHelp : Shape → Option Bool
  | .long "help" none => some true
  | .short 'h' _ => some false
  | _ => none

/-- Read the arguments of a command with these options and room for so many other arguments. -/
def read (options : List Flag) (room : Nat) : Parsed → List String → Except Stop Parsed
  | p, [] => .ok p
  | p, arg :: rest =>
    match shape arg with
    | .separator => p.addPositionals room rest
    | .plain =>
      match p.addPositionals room [arg] with
      | .ok p => read options room p rest
      | .error e => .error e
    | form =>
      match asksHelp form, named? options form with
      | some long, _ => .error (.help long)
      | none, none => .error .usage
      | none, some (o, some value) =>
        match p.addOption o value with
        | .ok p => read options room p rest
        | .error e => .error e
      | none, some (o, none) =>
        match rest with
        | [] => .error .usage
        | value :: rest =>
          if shape value = .plain then
            match p.addOption o value with
            | .ok p => read options room p rest
            | .error e => .error e
          else .error .usage

/-! ### Commands -/

/-- The command to make a query. -/
def compileOf? (p : Parsed) : Option Command := do
  let schema ← p.value? "schema"
  return .compile schema (p.value? "config")
    { registers := p.values "register"
      selects := p.values "select"
      aggregates := p.values "aggregate"
      conditions := p.values "where"
      orders := p.values "orderby"
      limit := (p.value? "limit").bind number?
      offset := (p.value? "offset").bind number?
      comment := p.value? "comment" }

/-- The command to check an expression. -/
def checkOf? (p : Parsed) : Option Command :=
  p.positionals.head?.map fun expr => .check expr (p.value? "schema") (p.value? "type")

/-- The command to list rules. -/
def rulesOf? (p : Parsed) : Option Command :=
  some (.rules (((p.value? "format").bind format?).getD .text) (p.value? "nodetype"))

/-- Read the arguments of a command. -/
def commandOf? (topic : Topic) (options : List Flag) (room : Nat)
    (build : Parsed → Option Command) (args : List String) : Option Command :=
  match read options room {} args with
  | .ok p => build p
  | .error (.help long) => some (.help topic long)
  | .error .usage => none

/-- The help that is asked for by the words behind `help`. -/
def helpOf? : List String → Option Command
  | [] => some (.help .program true)
  | ["compile"] => some (.help .compile true)
  | ["check"] => some (.help .check true)
  | ["rules"] => some (.help .rules true)
  | ["help"] => some (.help .program true)
  | _ => none

/-- What the arguments ask for; nothing if they do not fit. -/
def Command.parse? : List String → Option Command
  | [] => none
  | "compile" :: args => commandOf? .compile compileOptions 0 compileOf? args
  | "check" :: args => commandOf? .check checkOptions 1 checkOf? args
  | "rules" :: args => commandOf? .rules rulesOptions 0 rulesOf? args
  | "help" :: args => helpOf? args
  | arg :: _ =>
    match shape arg with
    | .long "version" none => some .version
    | .short 'V' _ => some .version
    | form => (asksHelp form).map fun long => .help .program long

end QueryExpr.CommandLine
