import QueryExpr.CommandLine.Arguments

/-!
# Help texts
-/

namespace QueryExpr.CommandLine

/-- Lines, each with a line break behind it. -/
def lines (ls : List String) : String := String.join (ls.map (· ++ "\n"))

/-- Help on the program. -/
def programHelp : String :=
  lines
    ["vSQL - A type-checked expression language that compiles to Oracle SQL",
     "",
     "Usage: vsql <COMMAND>",
     "",
     "Commands:",
     "  compile  Build a query from vSQL expressions and print its SQL",
     "  check    Type-check a single vSQL expression",
     "  rules    List the rules of the registry",
     "  help     Print this message or the help of the given subcommand(s)",
     "",
     "Options:",
     "  -h, --help     Print help",
     "  -V, --version  Print version"]

/-- Help on making queries. -/
def compileHelp : String :=
  lines
    ["Build a query from vSQL expressions and print its SQL",
     "",
     "Usage: vsql compile [OPTIONS] --schema <SCHEMA>",
     "",
     "Options:",
     "  -s, --schema <SCHEMA>         Path to the schema file",
     "  -c, --config <CONFIG>         Path to the settings file (searched for if not specified)",
     "      --select <SELECTS>        Expression to select",
     "      --aggregate <AGGREGATES>  Aggregated expression to select, as `aggregate:expr`",
     "      --where <WHERES>          Condition for the `where` clause",
     "      --orderby <ORDERBYS>      Sort expression, optionally followed by `:asc` or `:desc`",
     "      --register <REGISTERS>    Root variable whose table is added even if nothing " ++
       "references it",
     "      --limit <LIMIT>           ",
     "      --offset <OFFSET>         ",
     "      --comment <COMMENT>       Comment put in front of the query",
     "  -h, --help                    Print help"]

/-- Help on checking expressions. -/
def checkHelp : String :=
  lines
    ["Type-check a single vSQL expression",
     "",
     "Usage: vsql check [OPTIONS] <EXPR>",
     "",
     "Arguments:",
     "  <EXPR>  The expression",
     "",
     "Options:",
     "  -s, --schema <SCHEMA>  Path to the schema file providing root variables",
     "  -t, --type <DATATYPE>  Type the expression must be usable as",
     "  -h, --help             Print help"]

/-- Help on listing rules, in short. -/
def rulesShortHelp : String :=
  lines
    ["List the rules of the registry",
     "",
     "Usage: vsql rules [OPTIONS]",
     "",
     "Options:",
     "  -f, --format <FORMAT>      Output format [default: text] [possible values: text, json]",
     "  -n, --nodetype <NODETYPE>  Only list rules for this node type (e.g. BINOP_ADD)",
     "  -h, --help                 Print help (see more with '--help')"]

/-- Help on listing rules, at length. -/
def rulesLongHelp : String :=
  lines
    ["List the rules of the registry",
     "",
     "Usage: vsql rules [OPTIONS]",
     "",
     "Options:",
     "  -f, --format <FORMAT>",
     "          Output format",
     "",
     "          Possible values:",
     "          - text: One rule per line",
     "          - json: JSON array of rules",
     "          ",
     "          [default: text]",
     "",
     "  -n, --nodetype <NODETYPE>",
     "          Only list rules for this node type (e.g. BINOP_ADD)",
     "",
     "  -h, --help",
     "          Print help (see a summary with '-h')"]

/-- The help on a topic. -/
def helpText : Topic → Bool → String
  | .program, _ => programHelp
  | .compile, _ => compileHelp
  | .check, _ => checkHelp
  | .rules, false => rulesShortHelp
  | .rules, true => rulesLongHelp

end QueryExpr.CommandLine
