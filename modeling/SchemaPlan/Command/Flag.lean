import SchemaPlan.Run

/-!
# Flags of the command line

A `Flag` is what a word with hyphens in front names.  A switch is given or not, any other flag takes
values, and most flags can be set by a variable of the environment as well.  Every command takes
flags of its own.
-/

namespace SchemaPlan.Command

/-- The commands. -/
inductive Verb where
  | build
  | upgrade
  | order
deriving DecidableEq

/-- The command of a name. -/
def Verb.ofName? : String → Option Verb
  | "build" => some .build
  | "upgrade" => some .upgrade
  | "order" => some .order
  | _ => none

/-- The flags. -/
inductive Flag where
  | help
  | verbose
  | outputDirectory
  | stem
  | statementsPerFile
  | quoteAllNames
  | singleStage
  | onlySchema
  | onlyData
  | noGrants
  | noOwnership
  | ignoreOldNames
  | old
  | new
deriving DecidableEq

/-- How many values a flag takes: none, one, or one and more each time it is given. -/
inductive Arity where
  | none
  | one
  | many
deriving DecidableEq

namespace Flag

/-- The values that a flag takes. -/
def arity : Flag → Arity
  | .outputDirectory | .stem | .statementsPerFile => .one
  | .old | .new => .many
  | _ => .none

/-- The name of a flag. -/
def name : Flag → String
  | .help => "help"
  | .verbose => "verbose"
  | .outputDirectory => "output-dir"
  | .stem => "prefix"
  | .statementsPerFile => "statements-per-file"
  | .quoteAllNames => "quote-all-names"
  | .singleStage => "single-stage"
  | .onlySchema => "only-schema"
  | .onlyData => "only-data"
  | .noGrants => "no-grants"
  | .noOwnership => "no-ownership"
  | .ignoreOldNames => "ignore-old-names"
  | .old => "old"
  | .new => "new"

/-- The letter that a flag can be given by. -/
def letter? : Flag → Option Char
  | .help => some 'h'
  | .verbose => some 'v'
  | .outputDirectory => some 'o'
  | _ => none

/-- The variable that sets a flag. -/
def setBy? : Flag → Option String
  | .verbose => some "DDLSTAGE_VERBOSE"
  | .outputDirectory => some "DDLSTAGE_OUTPUT_DIR"
  | .stem => some "DDLSTAGE_PREFIX"
  | .statementsPerFile => some "DDLSTAGE_STATEMENTS_PER_FILE"
  | .quoteAllNames => some "DDLSTAGE_QUOTE_ALL_NAMES"
  | .singleStage => some "DDLSTAGE_SINGLE_STAGE"
  | .onlySchema => some "DDLSTAGE_ONLY_SCHEMA"
  | .onlyData => some "DDLSTAGE_ONLY_DATA"
  | .noGrants => some "DDLSTAGE_NO_GRANTS"
  | .noOwnership => some "DDLSTAGE_NO_OWNERSHIP"
  | .ignoreOldNames => some "DDLSTAGE_IGNORE_OLD_NAMES"
  | .help | .old | .new => none

/-- The flags that can stand in front of a command and behind every command. -/
def common : List Flag :=
  [.help, .verbose]

/-- The flags that say how a script is made and where it goes. -/
def scriptFlags : List Flag := [
  .outputDirectory, .stem, .statementsPerFile, .quoteAllNames, .singleStage, .onlySchema, .onlyData,
  .noGrants, .noOwnership]

end Flag

/-- The flags of a command. -/
def Verb.flags : Verb → List Flag
  | .build => Flag.common ++ Flag.scriptFlags
  | .upgrade => Flag.common ++ Flag.scriptFlags ++ [.ignoreOldNames, .old, .new]
  | .order => Flag.common

/-- Whether a command takes sources as words of their own. -/
def Verb.takesSources : Verb → Bool
  | .build | .order => true
  | .upgrade => false

/-- The variables that are heeded. -/
def heededVariables : List String :=
  (Verb.flags .upgrade).filterMap Flag.setBy?

end SchemaPlan.Command
