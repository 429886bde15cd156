/-!
The arguments of the program. Options stand in any order; a value follows its option or is attached
to it, and two hyphens end the options.
-/

namespace FormulaSheet

structure CommandLine where
  file : Option String := none
  query : Option String := none
  output : Option String := none
  command : Option String := none
  config : Option String := none
  raw : Bool := false
  table : Option String := none
  saveAs : Option String := none
  list : Bool := false
  deriving DecidableEq, Repr

namespace CommandLine

/-- Options that have a value, and flags that have none. -/
inductive Key where
  | query
  | output
  | command
  | config
  | table
  | saveAs
  deriving DecidableEq, Repr

inductive Flag where
  | raw
  | list
  | help
  | version
  deriving DecidableEq, Repr

/-- What some arguments ask for. -/
inductive Request where
  | run (options : CommandLine)
  | help
  | version
  | refused
  deriving DecidableEq, Repr

def Key.ofLong? : String → Option Key
  | "query" => some .query
  | "output" => some .output
  | "command" => some .command
  | "config" => some .config
  | "table" => some .table
  | "save-as" => some .saveAs
  | _ => none

def Key.ofShort? : Char → Option Key
  | 'q' => some .query
  | 'o' => some .output
  | 'c' => some .command
  | _ => none

def Flag.ofLong? : String → Option Flag
  | "raw" => some .raw
  | "list" => some .list
  | "help" => some .help
  | "version" => some .version
  | _ => none

def Flag.ofShort? : Char → Option Flag
  | 'h' => some .help
  | 'V' => some .version
  | _ => none

/-- Whether the value of an option may begin with a hyphen. -/
def Key.takesHyphens (k : Key) : Bool := k == .query

/-- Whether the value of an option is a path, which is never empty. -/
def Key.isPath (k : Key) : Bool := k == .output || k == .config

def get? (o : CommandLine) : Key → Option String
  | .query => o.query
  | .output => o.output
  | .command => o.command
  | .config => o.config
  | .table => o.table
  | .saveAs => o.saveAs

def put (o : CommandLine) (value : String) : Key → CommandLine
  | .query => { o with query := some value }
  | .output => { o with output := some value }
  | .command => { o with command := some value }
  | .config => { o with config := some value }
  | .table => { o with table := some value }
  | .saveAs => { o with saveAs := some value }

/-- Gives an option its value, which it has once at most. -/
def setKey (o : CommandLine) (k : Key) (value : String) : Except Request CommandLine :=
  if (o.get? k).isSome || (k.isPath && value.isEmpty) then .error .refused else .ok (o.put value k)

def setFlag (o : CommandLine) : Flag → Except Request CommandLine
  | .raw => if o.raw then .error .refused else .ok { o with raw := true }
  | .list => if o.list then .error .refused else .ok { o with list := true }
  | .help => .error .help
  | .version => .error .version

/-- The one argument that is no option. -/
def setFile (o : CommandLine) (value : String) : Except Request CommandLine :=
  if o.file.isSome || value.isEmpty then .error .refused else .ok { o with file := some value }

/-- An argument that begins with two hyphens, from after these on; the option that waits for its
value is given as well. -/
def readLong (o : CommandLine) (text : List Char) : Except Request (CommandLine × Option Key) :=
  let name := String.ofList (text.takeWhile (· != '='))
  let attached := match text.dropWhile (· != '=') with
    | '=' :: value => some (String.ofList value)
    | _ => none
  match Key.ofLong? name, Flag.ofLong? name, attached with
  | some k, _, some value => (o.setKey k value).map fun o => (o, none)
  | some k, _, none => .ok (o, some k)
  | none, some f, none => (o.setFlag f).map fun o => (o, none)
  | none, _, _ => .error .refused

/-- An argument that begins with one hyphen, from after it on. -/
def readShort (o : CommandLine) : List Char → Except Request (CommandLine × Option Key)
  | [] => .ok (o, none)
  | c :: cs =>
    match Key.ofShort? c, Flag.ofShort? c with
    | some k, _ =>
      match cs with
      | [] => .ok (o, some k)
      | '=' :: value => (o.setKey k (String.ofList value)).map fun o => (o, none)
      | value => (o.setKey k (String.ofList value)).map fun o => (o, none)
    | none, some f => do readShort (← o.setFlag f) cs
    | none, none => .error .refused

/-- Reads arguments one by one; `waiting` is an option whose value is to come, and it is missing
when another option or the end of the options comes in its place. -/
def readAll : CommandLine → Option Key → List String → Except Request CommandLine
  | o, none, [] => .ok o
  | _, some _, [] => .error .refused
  | o, waiting, arg :: args => do
    let isFree := waiting.all Key.takesHyphens && waiting.isSome
    match arg.toList with
    | '-' :: '-' :: text =>
      if isFree then readAll (← (waiting.elim (.ok o) (o.setKey · arg))) none args
      else if waiting.isSome then .error .refused
      else if text.isEmpty then args.foldlM setFile o
      else
        let (o, waiting) ← o.readLong text
        readAll o waiting args
    | '-' :: c :: text =>
      if isFree then readAll (← (waiting.elim (.ok o) (o.setKey · arg))) none args
      else if waiting.isSome then .error .refused
      else
        let (o, waiting) ← o.readShort (c :: text)
        readAll o waiting args
    | _ =>
      match waiting with
      | some k => readAll (← o.setKey k arg) none args
      | none => readAll (← o.setFile arg) none args

/-- A stored table and a file exclude each other. Only a file can be stored under a name, but where
a stored table takes the place of the file, the name is passed over. -/
def isConsistent (o : CommandLine) : Bool :=
  !(o.table.isSome && o.file.isSome) && (o.saveAs.isNone || o.file.isSome || o.table.isSome)

/-- Reads the arguments of the program. -/
def read (args : List String) : Request :=
  match readAll {} none args with
  | .ok o => if o.isConsistent then .run o else .refused
  | .error r => r

/-- The help of the program. -/
def help : String := String.intercalate "\n"
  ["CSV tables with formulas",
    "",
    "Usage: rowsheet [OPTIONS] [FILE]",
    "",
    "Arguments:",
    "  [FILE]  CSV file to open",
    "",
    "Options:",
    "  -q, --query <QUERY>      Filter/sort spec, e.g. '\"Done\":\"yes\" \"Due\":ASC'",
    "  -o, --output <OUTPUT>    Write the table's CSV text to this file instead of printing it",
    "  -c, --command <COMMAND>  Evaluate a formula and print the result (exit code 1 on error)",
    "      --config <CONFIG>    Settings file (default: the per-user config.toml)",
    "      --raw                Print raw cell text instead of evaluated values",
    "      --table <TABLE>      Open a stored table by id; query changes are saved back",
    "      --save-as <SAVE_AS>  Store FILE as a new table with this name",
    "      --list               List stored tables, newest first",
    "  -h, --help               Print help",
    "  -V, --version            Print version",
    ""]

def version : String := "rowsheet 0.1.0\n"

end CommandLine

end FormulaSheet
