import AsmExplorer.Path

/-!
# Arguments of the program

The program takes options, the name of a command, and the file that the command is about.  Options
with one letter may be joined behind one hyphen, and a value may follow its option in the same word.
After `--` all words are operands.  Words are read from left to right, and the first one that asks
for help, asks for the version or is wrong decides.

`Arguments.read` gives what the words ask for.
-/

namespace AsmExplorer

/-- What the program can do with a file. -/
inductive Task where
  /-- Print the listing, as text or as data. -/
  | compile (json : Bool)
  /-- Print which lines each source line produced. -/
  | map
  /-- Print a summary whenever the file changes. -/
  | watch
deriving DecidableEq, Inhabited

/-- The names of the commands. -/
inductive TaskName where
  /-- Prints the listing. -/
  | compile
  /-- Prints which lines each source line produced. -/
  | map
  /-- Prints a summary whenever the file changes. -/
  | watch
deriving DecidableEq, Inhabited

/-- The spelling of the name of a command. -/
def TaskName.text : TaskName → String
  | compile => "compile"
  | map => "map"
  | watch => "watch"

/-- The command with a name. -/
def TaskName.ofText? (s : String) : Option TaskName :=
  [compile, map, watch].find? fun name => name.text == s

/-- What a run of the program is asked for. -/
structure Order where
  /-- The configuration file that is named. -/
  config : Option Path := none
  /-- Whether to report more of what is done. -/
  verbose : Bool := false
  /-- What to do. -/
  task : Task
  /-- The file to do it with. -/
  file : Path
deriving DecidableEq, Inhabited

/-- What the arguments ask for. -/
inductive Request where
  /-- A run. -/
  | run (order : Order)
  /-- Help on the program or on a command. -/
  | help (topic : Option TaskName)
  /-- Help on asking for help. -/
  | helpOnHelp
  /-- The version of the program. -/
  | version
  /-- Nothing that can be done: the arguments are wrong. -/
  | refused
deriving DecidableEq, Inhabited

namespace Arguments

/-! ### Options -/

/-- An option as given. -/
inductive Given where
  /-- The configuration file, perhaps with its value in the same word. -/
  | config (value : Option String)
  /-- More reports. -/
  | verbose
  /-- The listing as data. -/
  | json
  /-- Help. -/
  | help
  /-- The version. -/
  | version
  /-- No option of the program. -/
  | unknown
deriving DecidableEq, Inhabited

/-- The options of joined letters. -/
def letters : List Char → List Given
  | [] => []
  | 'c' :: [] => [.config none]
  | 'c' :: '=' :: value => [.config (some (String.ofList value))]
  | 'c' :: value => [.config (some (String.ofList value))]
  | 'v' :: rest => .verbose :: letters rest
  | 'h' :: rest => .help :: letters rest
  | 'V' :: rest => .version :: letters rest
  | _ :: _ => [.unknown]

/-- The option with a long name. -/
def long (name : List Char) : Given :=
  match name.span (· != '=') with
  | (name, '=' :: value) =>
    if name = "config".toList then .config (some (String.ofList value)) else .unknown
  | (name, _) =>
    match String.ofList name with
    | "config" => .config none
    | "verbose" => .verbose
    | "json" => .json
    | "help" => .help
    | "version" => .version
    | _ => .unknown

/-- The options that a word gives, none if it is no option. -/
def options? (word : String) : Option (List Given) :=
  match word.toList with
  | '-' :: '-' :: name => some [long name]
  | '-' :: c :: rest => some (letters (c :: rest))
  | _ => none

/-! ### Reading words -/

/-- What was read at one level: before the name of the command, or after it. -/
structure Seen where
  /-- The configuration file. -/
  config : Option String := none
  /-- Whether more reports were asked for. -/
  verbose : Bool := false
  /-- Whether the listing was asked for as data. -/
  json : Bool := false
  /-- The operand. -/
  file : Option String := none
  /-- Whether the next word is the value of an option. -/
  awaits : Bool := false
deriving DecidableEq, Inhabited

/-- The reading goes on, or it is decided what is asked for. -/
abbrev Reading := Except Request

/-- Takes a value for the configuration file, which may be given once on each level. -/
def Seen.takeConfig (s : Seen) (value : String) : Reading Seen :=
  if value = "" ∨ s.config.isSome then .error .refused
  else .ok { s with config := some value, awaits := false }

/-- Takes an operand.  Commands have one, the program itself has none. -/
def Seen.takeFile (topic : Option TaskName) (s : Seen) (value : String) : Reading Seen :=
  if topic.isNone ∨ value = "" ∨ s.file.isSome then .error .refused
  else .ok { s with file := some value }

/-- Takes an option. -/
def Seen.takeOption (topic : Option TaskName) (s : Seen) : Given → Reading Seen
  | .config none => .ok { s with awaits := true }
  | .config (some value) => s.takeConfig value
  | .verbose => if s.verbose then .error .refused else .ok { s with verbose := true }
  | .json =>
    if topic ≠ some .compile ∨ s.json then .error .refused else .ok { s with json := true }
  | .help => .error (.help topic)
  | .version => .error (if topic.isNone then .version else .refused)
  | .unknown => .error .refused

/-- Reads the words of one level.  Before the name of a command, the first word that is no option
ends the level; it is given back with the words after it. -/
def level (topic : Option TaskName) :
    Seen → List String → Reading (Seen × Option (String × List String))
  | s, [] => if s.awaits then .error .refused else .ok (s, none)
  | s, word :: rest =>
    match s.awaits, options? word with
    | true, some _ => .error .refused
    | true, none => do level topic (← s.takeConfig word) rest
    | false, some given =>
      if word = "--" then do
        let s ← rest.foldlM (Seen.takeFile topic) s
        return (s, none)
      else do level topic (← given.foldlM (Seen.takeOption topic) s) rest
    | false, none =>
      match topic with
      | none => .ok (s, some (word, rest))
      | some _ => do level topic (← s.takeFile topic word) rest

/-- What is asked for by the words after `help`. -/
def helpOn : List String → Request
  | [] => .help none
  | [word] =>
    if word = "help" then .helpOnHelp
    else
      match TaskName.ofText? word with
      | some topic => .help (some topic)
      | none => .refused
  | _ => .refused

/-- What a command is to do. -/
def task (seen : Seen) : TaskName → Task
  | .compile => .compile seen.json
  | .map => .map
  | .watch => .watch

/-- The run that the words after the name of a command ask for. -/
def ofCommand (outer : Seen) (topic : TaskName) (words : List String) : Reading Request := do
  let (inner, _) ← level (some topic) {} words
  match inner.file with
  | none => .error .refused
  | some file =>
    return .run
      { config := (inner.config <|> outer.config).map Path.ofText
        verbose := inner.verbose || outer.verbose
        task := task inner topic
        file := .ofText file }

/-- What the words ask for. -/
def read (words : List String) : Request :=
  let result : Reading Request := do
    match ← level none {} words with
    | (_, none) => .error .refused
    | (outer, some (word, rest)) =>
      if word = "help" then return helpOn rest
      else
        match TaskName.ofText? word with
        | some topic => ofCommand outer topic rest
        | none => .error .refused
  match result with
  | .ok request => request
  | .error request => request

end Arguments

end AsmExplorer
