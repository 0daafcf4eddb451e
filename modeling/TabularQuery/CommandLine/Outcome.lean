import TabularQuery.CommandLine.Arguments
import TabularQuery.Query.Run

/-! What the program prints and with which status it ends. -/

namespace TabularQuery.CommandLine

def versionText : String := "csv-query 0.1.0\n"

def helpText : String :=
  "CSV file reader: filter rows, aggregate a column, print a table\n" ++
  "\n" ++
  "Usage: csv-query [OPTIONS] --file <PATH>\n" ++
  "\n" ++
  "Options:\n" ++
  "  -f, --file <PATH>       Path to the CSV file\n" ++
  "  -w, --where <EXPR>      Filter rows: \"column<op>value\" with <, > or =\n" ++
  "  -a, --aggregate <EXPR>  Aggregate a column: \"column=min\", \"column=avg\" or \"column=max\"\n" ++
  "  -d, --delimiter <CHAR>  Field delimiter (single ASCII character) [default: ,]\n" ++
  "  -h, --help              Print help\n" ++
  "  -V, --version           Print version\n" ++
  "\n" ++
  "Examples:\n" ++
  "  csv-query -f phones.csv                              # Print the whole file\n" ++
  "  csv-query -f phones.csv -w brand=apple               # Rows where brand equals apple\n" ++
  "  csv-query -f phones.csv -w \"price>500\" -a price=avg  # Mean price of rows above 500\n" ++
  "\n" ++
  "Set RUST_LOG=info to log each stage to stderr.\n"

def Name.text : Name → String
  | .file => "--file"
  | .condition => "--where"
  | .summary => "--aggregate"
  | .delimiter => "--delimiter"

def UsageError.message : UsageError → String
  | .unexpected argument => s!"unexpected argument '{argument}'"
  | .noValue argument => s!"a value is required for '{argument}'"
  | .badValue value => s!"invalid value '{value}'"
  | .repeated name => s!"the option '{name.text}' cannot be used multiple times"
  | .noFile => "the option '--file' is required"

structure Outcome where
  code : UInt8
  output : String
  diagnostics : String
  deriving DecidableEq

namespace Outcome

def ofUsageError (error : UsageError) : Outcome := ⟨2, "", s!"error: {error.message}\n"⟩

def ofTable (table : Except QueryError String) : Outcome :=
  match table with
  | .ok text => ⟨0, text ++ "\n", ""⟩
  | .error error => ⟨error.exitCode, "", s!"error: {error.message}\n"⟩

end Outcome

def Request.outcome (printer : Grid.Printer) (request : Request) (source : String → Source) : Outcome :=
  match request with
  | .help => ⟨0, helpText, ""⟩
  | .version => ⟨0, versionText, ""⟩
  | .query options => .ofTable (Query.run printer options (source options.path)).result

def outcome (printer : Grid.Printer) (arguments : List String) (source : String → Source) : Outcome :=
  match parse arguments with
  | .error error => .ofUsageError error
  | .ok request => request.outcome printer source

end TabularQuery.CommandLine
