import AsmExplorer.CommandLine.Arguments

/-!
# Help texts
-/

namespace AsmExplorer

/-- The name and the version of the program. -/
def versionText : String :=
  "asmlens 0.3.0\n"

/-- What a command does. -/
def TaskName.about : TaskName → String
  | compile => "Print the filtered assembly listing of a file"
  | map => "Print which assembly lines each source line produced"
  | watch => "Recompile a file whenever it or a file it includes changes"

namespace Help

/-- A row of a table: its left part is filled with spaces up to a column. -/
def row (column : Nat) (left right : String) : String :=
  "  " ++ left.pushn ' ' (column - left.length) ++ "  " ++ right ++ "\n"

/-- The option for the configuration file. -/
def configRow : String :=
  row 19 "-c, --config <PATH>"
    "Configuration file (defaults to ./asmlens.toml, then the user config directory)"

/-- The options that every command has after those of its own. -/
def commonRows : String :=
  row 19 "-v, --verbose" "Verbose logging" ++ row 19 "-h, --help" "Print help"

/-- Help on the program. -/
def onProgram : String :=
  "Compile C/C++ sources to assembly and map listing lines back to source\n\n" ++
    "Usage: asmlens [OPTIONS] <COMMAND>\n\nCommands:\n" ++
    String.join ([TaskName.compile, .map, .watch].map fun name => row 7 name.text name.about) ++
    row 7 "help" "Print this message or the help of the given subcommand(s)" ++
    "\nOptions:\n" ++ configRow ++ commonRows ++ row 19 "-V, --version" "Print version"

/-- Help on a command. -/
def onTask (name : TaskName) : String :=
  let json :=
    if name = .compile then
      row 19 "    --json" "Print parsed lines with their source locations as JSON"
    else ""
  name.about ++ "\n\nUsage: asmlens " ++ name.text ++ " [OPTIONS] <FILE>\n\nArguments:\n" ++
    row 6 "<FILE>" "" ++ "\nOptions:\n" ++ configRow ++ json ++ commonRows

/-- Help on asking for help. -/
def onHelp : String :=
  "Print this message or the help of the given subcommand(s)\n\n" ++
    "Usage: asmlens help [COMMAND]...\n\nArguments:\n" ++
    row 12 "[COMMAND]..." "Print help for the subcommand(s)"

/-- Help on a topic. -/
def text : Option TaskName → String
  | none => onProgram
  | some name => onTask name

end Help

end AsmExplorer
