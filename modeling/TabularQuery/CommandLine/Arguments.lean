import TabularQuery.Query.Options

/-! The arguments of the command line. An option has a short and a long name and takes one
value, which stands in the next argument or in the same one; each option is given at most
once. Arguments are taken one after the other, and a request for help or for the version
is granted where it stands. -/

namespace TabularQuery.CommandLine

inductive Name
  | file
  | condition
  | summary
  | delimiter
  deriving DecidableEq

/-- A name takes a value; a switch takes none. -/
inductive Switch
  | help
  | version
  deriving DecidableEq

inductive Flag
  | value (name : Name)
  | switch (chosen : Switch)
  deriving DecidableEq

def Flag.ofShort? (c : Char) : Option Flag :=
  match c with
  | 'f' => some (.value .file)
  | 'w' => some (.value .condition)
  | 'a' => some (.value .summary)
  | 'd' => some (.value .delimiter)
  | 'h' => some (.switch .help)
  | 'V' => some (.switch .version)
  | _ => none

def Flag.ofLong? (name : String) : Option Flag :=
  match name with
  | "file" => some (.value .file)
  | "where" => some (.value .condition)
  | "aggregate" => some (.value .summary)
  | "delimiter" => some (.value .delimiter)
  | "help" => some (.switch .help)
  | "version" => some (.switch .version)
  | _ => none

inductive UsageError
  | unexpected (argument : String)
  | noValue (argument : String)
  | badValue (value : String)
  | repeated (name : Name)
  | noFile
  deriving DecidableEq

inductive Request
  | help
  | version
  | query (options : Options)
  deriving DecidableEq

structure Values where
  file : Option String := none
  condition : Option String := none
  summary : Option String := none
  delimiter : Option UInt8 := none

namespace Values

/-- A delimiter is a single character of the first 128. -/
def readDelimiter (value : String) : Except UsageError UInt8 :=
  match value.toList with
  | [c] => if c.toNat < 128 then .ok (UInt8.ofNat c.toNat) else .error (.badValue value)
  | _ => .error (.badValue value)

/-- A value that is given must be one that its option can take, and the first. -/
def give (values : Values) (name : Name) (value : String) : Except UsageError Values :=
  match name with
  | .file =>
    if values.file.isSome then .error (.repeated name)
    else if value = "" then .error (.badValue value)
    else .ok { values with file := some value }
  | .condition =>
    if values.condition.isSome then .error (.repeated name)
    else .ok { values with condition := some value }
  | .summary =>
    if values.summary.isSome then .error (.repeated name)
    else .ok { values with summary := some value }
  | .delimiter =>
    if values.delimiter.isSome then .error (.repeated name)
    else (readDelimiter value).map fun byte => { values with delimiter := some byte }

def request (values : Values) : Except UsageError Request :=
  match values.file with
  | none => .error .noFile
  | some path =>
    .ok (.query ⟨path, values.condition, values.summary, values.delimiter.getD 44⟩)

end Values

inductive Argument
  | attached (name : Name) (value : String)
  | awaiting (name : Name)
  | switch (chosen : Switch)
  | endOfOptions
  | unexpected
  deriving DecidableEq

namespace Argument

/-- A cluster of short names. The first that is a switch is granted at once, and one that
takes a value takes the rest of the cluster, without an equals sign before it. -/
def ofCluster : List Char → Argument
  | [] => .unexpected
  | c :: rest =>
    match Flag.ofShort? c with
    | none => .unexpected
    | some (.switch chosen) => .switch chosen
    | some (.value name) =>
      match rest with
      | [] => .awaiting name
      | '=' :: value => .attached name (String.ofList value)
      | value => .attached name (String.ofList value)

/-- A long name, with a value after the first equals sign. A switch takes no value. -/
def ofLong (text : List Char) : Argument :=
  let name := String.ofList (text.takeWhile (· != '='))
  match Flag.ofLong? name, text.dropWhile (· != '=') with
  | none, _ => .unexpected
  | some (.value name), [] => .awaiting name
  | some (.value name), _ :: value => .attached name (String.ofList value)
  | some (.switch chosen), [] => .switch chosen
  | some (.switch _), _ :: _ => .unexpected

def read (text : String) : Argument :=
  match text.toList with
  | ['-', '-'] => .endOfOptions
  | '-' :: '-' :: long => ofLong long
  | '-' :: cluster => ofCluster cluster
  | _ => .unexpected

end Argument

/-- A separate value may not look like an option; a single hyphen does not. -/
def isSeparateValue (text : String) : Bool :=
  text.toList.head? != some '-' || text.toList == ['-']

def Switch.request : Switch → Request
  | .help => .help
  | .version => .version

def readArguments (values : Values) : List String → Except UsageError Request
  | [] => values.request
  | argument :: rest =>
    match Argument.read argument with
    | .switch chosen => .ok chosen.request
    | .unexpected => .error (.unexpected argument)
    | .endOfOptions =>
      match rest with
      | [] => values.request
      | extra :: _ => .error (.unexpected extra)
    | .attached name value =>
      match values.give name value with
      | .error error => .error error
      | .ok values => readArguments values rest
    | .awaiting name =>
      match rest with
      | [] => .error (.noValue argument)
      | value :: rest =>
        if isSeparateValue value then
          match values.give name value with
          | .error error => .error error
          | .ok values => readArguments values rest
        else .error (.noValue argument)

def parse (arguments : List String) : Except UsageError Request := readArguments {} arguments

end TabularQuery.CommandLine
