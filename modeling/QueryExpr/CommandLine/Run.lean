import QueryExpr.CommandLine.Arguments
import QueryExpr.CommandLine.Help
import QueryExpr.CommandLine.Listing
import QueryExpr.Query.Clauses
import QueryExpr.Schema.Toml
import QueryExpr.Settings.Basic

/-!
# Commands

What a command prints follows from the files it reads and the environment. Settings come from the file
that is named on the command line or in the environment, or else from the first of the usual places
that holds one.
-/

namespace QueryExpr.CommandLine

/-- What a path leads to. -/
inductive File where
  | missing
  /-- There is something, but it cannot be read as text. -/
  | unreadable (reason : String)
  | text (content : String)
  deriving DecidableEq, Repr, Inhabited

/-- What a command can see. -/
structure Host where
  file : String → File
  env : Environment

/-- What goes to the error output. -/
inductive Notice where
  /-- A message. -/
  | line (text : String)
  /-- A report on a text that is no expression. -/
  | syntaxReport (source : String) (error : SyntaxError)
  deriving DecidableEq, Repr, Inhabited

/-- What a command comes to. -/
structure Outcome where
  exit : Nat
  stdout : String := ""
  stderr : Option Notice := none
  deriving DecidableEq, Repr, Inhabited

namespace Outcome

/-- Success with a printed text. -/
def success (stdout : String) : Outcome := { exit := 0, stdout }

/-- Failure with a message. -/
def failure (message : String) : Outcome := { exit := 1, stderr := some (.line message) }

/-- Failure at a text that is no expression. -/
def syntaxFailure (source : String) (error : SyntaxError) : Outcome :=
  { exit := 1, stderr := some (.syntaxReport source error) }

end Outcome

/-! ### Files -/

/-- What is said of a file that does not have the form of a configuration file. -/
def malformedFile : String := "TOML parse error"

/-- Load a schema; the error is a message. -/
def loadSchema (host : Host) (path : String) : Except String Schema :=
  match host.file path with
  | .missing => .error ("Schema file not found: " ++ path)
  | .unreadable reason => .error ("Failed to read schema file: " ++ reason)
  | .text content =>
    (Schema.parse content).mapError fun
      | .malformed => "Failed to parse schema file: " ++ malformedFile
      | .inconsistent error => error.message

/-- Load settings from a file; the error is a message. -/
def loadSettingsFile (host : Host) (path : String) : Except String Settings :=
  match host.file path with
  | .missing => .error ("Config file not found: " ++ path)
  | .unreadable reason => .error ("Failed to read config file: " ++ reason)
  | .text content =>
    (Settings.parse host.env content).mapError fun
      | .malformed => "Failed to parse config file: " ++ malformedFile
      | .missingVariable name => "Missing environment variable: " ++ name

/-- A path inside a directory. -/
def joinPath (directory name : String) : String :=
  if directory.endsWith "/" then directory ++ name else directory ++ "/" ++ name

/-- The directory for the settings of a user. -/
def configDirectory? (env : Environment) : Option String :=
  match (env "XDG_CONFIG_HOME").filter fun d => d.startsWith "/" with
  | some directory => some directory
  | none => ((env "HOME").filter fun d => d ≠ "").map fun home => joinPath home ".config"

/-- The usual places of settings. -/
def usualPlaces (env : Environment) : List String :=
  "vsql.toml" ::
    ((configDirectory? env).map fun d => joinPath (joinPath d "vsql") "config.toml").toList

/-- Load the settings for a command. -/
def loadSettings (host : Host) (config : Option String) : Except String Settings :=
  match config.or (host.env "VSQL_CONFIG") with
  | some path => loadSettingsFile host path
  | none =>
    match (usualPlaces host.env).find? fun path => host.file path ≠ .missing with
    | some path => loadSettingsFile host path
    | none => .ok {}

/-- The files that a command may read. -/
def Command.paths (env : Environment) : Command → List String
  | .compile schema config _ =>
    (config.or (env "VSQL_CONFIG")).toList ++ usualPlaces env ++ [schema]
  | .check _ schema _ => schema.toList
  | _ => []

/-! ### Queries -/

/-- An aggregation and its expression, which stands behind the first colon. -/
def splitAggregate (text : String) : Option Aggregate × String :=
  match Text.cutFirst [':'] text.toList with
  | some (name, expr) => (Aggregate.ofName? (String.ofList name), String.ofList expr)
  | none => (Aggregate.ofName? text, "")

/-- An expression to order by and its direction. What stands behind the last colon is a direction only
if it reads as one; otherwise all of the text is the expression. -/
def splitOrder (text : String) : String × Option SortDir :=
  match Text.cutLast ':' text.toList with
  | some (expr, word) =>
    match SortDir.ofText? (String.ofList word) with
    | some dir => (String.ofList expr, some dir)
    | none => (text, none)
  | none => (text, none)

/-- A step of a query; the error comes with the expression that it is about. -/
def tryStep {α : Type} (source : String) (step : Query × Except QueryError α) :
    Except (String × QueryError) Query :=
  match step with
  | (q, .ok _) => .ok q
  | (_, .error e) => .error (source, e)

/-- Select an aggregation. -/
def addAggregate (groups : Groups) (q : Query) (text : String) :
    Except (String × QueryError) Query :=
  match splitAggregate text with
  | (none, _) => .error (text, .unknownAggregate text)
  | (some aggregate, expr) => tryStep expr (q.select groups expr none (some aggregate))

/-- Order by an expression. -/
def addOrder (groups : Groups) (q : Query) (text : String) : Except (String × QueryError) Query :=
  let (expr, dir) := splitOrder text
  tryStep expr (q.order groups expr dir none)

/-- The query that is asked for. -/
def Request.build (r : Request) (schema : Schema) : Except (String × QueryError) Query := do
  let groups := schema.groups
  let q := { Query.ofVars schema.vars with comment := r.comment }
  let q ← r.registers.foldlM (fun q name => tryStep name (q.register groups name)) q
  let q ← r.selects.foldlM (fun q expr => tryStep expr (q.select groups expr none none)) q
  let q ← r.aggregates.foldlM (addAggregate groups) q
  let q ← r.conditions.foldlM (fun q expr => tryStep expr (q.require groups expr)) q
  let q ← r.orders.foldlM (addOrder groups) q
  return { q with limit := r.limit, offset := r.offset }

/-! ### Running commands -/

/-- Failure to compile an expression. -/
def compileFailure (source : String) : CompileError → Outcome
  | .syntactic error => .syntaxFailure source error
  | error => .failure error.message

/-- Failure of a step of a query. -/
def queryFailure (source : String) : QueryError → Outcome
  | .compile error => compileFailure source error
  | error => .failure error.message

/-- Make a query and print it. -/
def runCompile (host : Host) (schema : String) (config : Option String) (request : Request) :
    Outcome :=
  match loadSettings host config with
  | .error message => .failure ("Error loading settings: " ++ message)
  | .ok settings =>
    match loadSchema host schema with
    | .error message => .failure ("Error loading schema: " ++ message)
    | .ok schema =>
      match request.build schema with
      | .error (source, error) => queryFailure source error
      | .ok q => .success (settings.render q ++ "\n")

/-- The schema for a check; without a file there are no variables. -/
def checkSchema (host : Host) : Option String → Except String Schema
  | none => .ok {}
  | some path => loadSchema host path

/-- Check an expression and print its type. -/
def runCheck (host : Host) (expr : String) (schema type : Option String) : Outcome :=
  match checkSchema host schema with
  | .error message => .failure ("Error loading schema: " ++ message)
  | .ok schema =>
    let answer (result : Except CompileError Term) : Outcome :=
      match result with
      | .ok t => .success ((t.dataType.getD .null).name ++ "\n")
      | .error error => compileFailure expr error
    match type with
    | none => answer (compileValid schema expr none)
    | some name =>
      match DataType.ofName? name with
      | none => .failure ("Unknown datatype: " ++ name)
      | some required => answer (compileTyped schema expr required)

/-- List rules in a form. -/
def listRules (format : Format) (rules : List Rule) : Outcome :=
  match format with
  | .text => .success (listText rules)
  | .json => .success (listJson rules)

/-- List the standard rules, all of them or those for one kind of node. -/
def runRules (format : Format) : Option String → Outcome
  | none => listRules format Registry.standard.list
  | some name =>
    match NodeType.ofName? name with
    | none => .failure ("Unknown node type: " ++ name)
    | some nodeType => listRules format (Registry.standard.listFor nodeType)

/-- The version of the program. -/
def version : String := "vsql 0.1.0"

/-- Run a command. -/
def Command.run (host : Host) : Command → Outcome
  | .compile schema config request => runCompile host schema config request
  | .check expr schema type => runCheck host expr schema type
  | .rules format nodeType => runRules format nodeType
  | .version => .success (CommandLine.version ++ "\n")
  | .help topic long => .success (helpText topic long)

/-- Run the program; arguments that do not fit give exit code 2. -/
def run (host : Host) (args : List String) : Outcome :=
  match Command.parse? args with
  | some command => command.run host
  | none => { exit := 2, stderr := some (.line (helpText .program false)) }

end QueryExpr.CommandLine
