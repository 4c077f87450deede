import SchemaPlan.Command.Arguments
import SchemaPlan.Sql.Relation

/-!
# Carrying out a command

A `Report` is what a command leaves behind apart from files: an exit code and what is printed.  Zero
stands for success, one for a failure of the work and two for a command line that cannot be read.

A script is printed unless it has been written to files; then their paths are printed.
-/

namespace SchemaPlan.Command

open SchemaPlan.Files

/-- The end of a command. -/
structure Report where
  code : UInt8 := 0
  output : String := ""
  errors : String := ""
deriving DecidableEq

/-- A text whose lines stand four columns further to the right. -/
def indented (text : String) : String :=
  String.intercalate "\n"
    ((Text.splitWhere (· == '\n') text.toList).map fun line => "    " ++ String.ofList line)

/-- The report of a failure. -/
def Report.ofFailure (work : String) (error : RunError) : Report where
  code := 1
  errors := "Error: " ++ work ++ "\n\nCaused by:\n" ++ indented error.message ++ "\n"

/-- What is printed of a script. -/
def printed (o : Outcome) : String :=
  if o.files.isEmpty then o.script.markedText else joinLines o.files

/-- Queries are read by the grammar of SQL. -/
instance : QueryReader where
  references := Sql.viewReferences

variable {m : Type → Type} [Monad m] [FileStore m]

/-- Carries out a task. -/
def Task.run : Task → m Report
  | .build sources settings => do
    match ← SchemaPlan.build sources settings with
    | .error e => return .ofFailure "build failed" e
    | .ok o => return { output := printed o }
  | .upgrade old new settings => do
    match ← SchemaPlan.upgrade old new settings with
    | .error e => return .ofFailure "upgrade failed" e
    | .ok o =>
      return { output := printed o, errors := if o.script.isEmpty then "No changes.\n" else "" }
  | .order sources => do
    match ← tableOrder sources with
    | .error e => return .ofFailure "dependency resolution failed" e
    | .ok items => return { output := joinLines (items.map (·.text)) }

/-! ### Command lines that ask for nothing -/

/-- How the program is used. -/
def usage : String := joinLines [
  "Compile declarative schema definitions into staged SQL scripts",
  "",
  "Usage: ddlstage [-v] build [FLAGS] <SOURCES>...",
  "       ddlstage [-v] upgrade [FLAGS] --old <OLD>... --new <NEW>...",
  "       ddlstage [-v] order <SOURCES>...",
  "",
  "Flags of build and upgrade:",
  "  -o, --output-dir <DIR>         Write stage files here instead of printing to stdout",
  "      --prefix <PREFIX>          Stage file name prefix [default: ddlstage]",
  "      --statements-per-file <N>  Start a new file after this many statements",
  "      --quote-all-names          Quote every identifier",
  "      --single-stage             Produce one script to run as a whole",
  "      --only-schema              Emit schema changes only",
  "      --only-data                Emit static data changes only",
  "      --no-grants                Leave grants untouched",
  "      --no-ownership             Leave object owners untouched",
  "",
  "Flags of upgrade:",
  "      --ignore-old-names         Compare by current names only"]

/-- The text of a fault. -/
def UsageFault.message : UsageFault → String
  | .noVerb => "a command is required: build, upgrade or order"
  | .unknownVerb name => "unrecognized subcommand '" ++ name ++ "'"
  | .unexpected argument => "unexpected argument '" ++ argument ++ "' found"
  | .unexpectedValue flag => "'--" ++ flag.name ++ "' takes no value"
  | .valueRequired flag => "a value is required for '--" ++ flag.name ++ "' but none was supplied"
  | .repeated flag => "'--" ++ flag.name ++ "' cannot be used multiple times"
  | .badValue flag value => "invalid value '" ++ value ++ "' for '--" ++ flag.name ++ "'"
  | .conflicting flag other =>
    "'--" ++ flag.name ++ "' cannot be used with '--" ++ other.name ++ "'"
  | .missing what => "the following required arguments were not provided: " ++ what

/-- The report of a command line that asks for nothing. -/
def Report.ofRefusal : Refusal → Report
  | .help => { output := usage }
  | .usage fault =>
    { code := 2
      errors := "error: " ++ fault.message ++ "\n\nFor more information, try '--help'.\n" }

/-- Carries out a command line. -/
def runArguments (arguments : List String) (environment : Environment) : m Report :=
  match Task.ofArguments arguments environment with
  | .ok task => task.run
  | .error refusal => return .ofRefusal refusal

end SchemaPlan.Command
