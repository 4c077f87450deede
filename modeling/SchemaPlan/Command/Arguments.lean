import SchemaPlan.Command.Flag

/-!
# Reading the command line

A command line is a verb with the flags and sources around it.  Flags may stand before and behind
the sources; a value follows its flag, or is joined to it by `=` or, for a letter, by nothing.
After `--` there are only sources.  Letters may be put together behind one hyphen.  The words are
taken in their order, and the first one that has no place decides what is wrong.

What the command line leaves out is taken from the environment, and only that: a flag that is given
hides its variable, even one with a value that makes no sense.
-/

namespace SchemaPlan.Command

open SchemaPlan.Text

/-- What is wrong with a command line. -/
inductive UsageFault where
  | noVerb
  | unknownVerb (name : String)
  | unexpected (argument : String)
  | unexpectedValue (flag : Flag)
  | valueRequired (flag : Flag)
  | repeated (flag : Flag)
  | badValue (flag : Flag) (value : String)
  | conflicting (flag other : Flag)
  | missing (what : String)
deriving DecidableEq

/-- Why a command is not carried out. -/
inductive Refusal where
  | help
  | usage (fault : UsageFault)
deriving DecidableEq

/-! ### Values -/

/-- The greatest count that can be given. -/
def maxCount : Nat :=
  (1 <<< 64) - 1

/-- A count in decimal digits; a plus may stand in front. -/
def count? (text : String) : Option Nat :=
  let digits := match text.toList with
    | '+' :: cs => cs
    | cs => cs
  if digits.isEmpty || !digits.all Char.isDigit then none
  else
    let n := digits.foldl (fun n c => 10 * n + (c.toNat - '0'.toNat)) 0
    if n ≤ maxCount then some n else none

/-- Whether a text can be the value of a flag, which for a switch is the one that a variable
gives. -/
def isValue (flag : Flag) (text : String) : Bool :=
  match flag with
  | .outputDirectory => !text.isEmpty
  | .statementsPerFile => (count? text).isSome
  | .stem | .old | .new => true
  | _ => text == "true" || text == "false"

/-! ### Words -/

/-- Flags and sources in the order in which they are given. -/
structure Given where
  switches : List Flag := []
  values : List (Flag × String) := []
  sources : List String := []
deriving DecidableEq

namespace Given

/-- Whether a flag is given. -/
def has (g : Given) (flag : Flag) : Bool :=
  g.switches.contains flag || g.values.any (·.1 == flag)

/-- The values given for a flag. -/
def valuesOf (g : Given) (flag : Flag) : List String :=
  (g.values.filter (·.1 == flag)).map (·.2)

/-- A switch is given. -/
def switch (g : Given) (flag : Flag) : Except Refusal Given :=
  if flag = .help then .error .help
  else if g.has flag then .error (.usage (.repeated flag))
  else .ok { g with switches := g.switches ++ [flag] }

/-- A flag is begun that takes values. -/
def begin? (g : Given) (flag : Flag) : Except Refusal Unit :=
  if flag.arity = .one && g.has flag then .error (.usage (.repeated flag)) else .ok ()

/-- A value is given for a flag. -/
def value (g : Given) (flag : Flag) (text : String) : Except Refusal Given :=
  if isValue flag text then .ok { g with values := g.values ++ [(flag, text)] }
  else .error (.usage (.badValue flag text))

end Given

/-- A flag whose values may follow, and whether one has followed. -/
structure Awaiting where
  flag : Flag
  satisfied : Bool

/-- The words behind a flag cannot be its values any more. -/
def Awaiting.close : Option Awaiting → Except Refusal Unit
  | some a => if a.satisfied then .ok () else .error (.usage (.valueRequired a.flag))
  | none => .ok ()

/-- A flag given by its name, and by a value joined to it. -/
def readName (flags : List Flag) (g : Given) (text : List Char) :
    Except Refusal (Given × Option Awaiting) := do
  let (name, joined) := match cutAt? '=' text with
    | some (name, value) => (String.ofList name, some (String.ofList value))
    | none => (String.ofList text, none)
  match flags.find? (·.name == name) with
  | none => throw (.usage (.unexpected ("--" ++ name)))
  | some flag =>
    match flag.arity, joined with
    | .none, none => return (← g.switch flag, none)
    | .none, some _ => throw (.usage (.unexpectedValue flag))
    | _, some value => do
      g.begin? flag
      return (← g.value flag value, none)
    | _, none => do
      g.begin? flag
      return (g, some ⟨flag, false⟩)

/-- Flags given by their letters; what follows the letter of a flag that takes a value is the value,
where `=` may stand between them. -/
def readLetters (flags : List Flag) (g : Given) :
    List Char → Except Refusal (Given × Option Awaiting)
  | [] => return (g, none)
  | c :: cs => do
    match flags.find? (·.letter? == some c) with
    | none => throw (.usage (.unexpected ("-" ++ String.singleton c)))
    | some flag =>
      if flag.arity = .none then
        readLetters flags (← g.switch flag) cs
      else do
        g.begin? flag
        match cs with
        | [] => return (g, some ⟨flag, false⟩)
        | '=' :: value => return (← g.value flag (String.ofList value), none)
        | value => return (← g.value flag (String.ofList value), none)

/-- Words are given as sources, which not every command takes. -/
def Given.addSources (verb : Verb) (g : Given) : List String → Except Refusal Given
  | [] => .ok g
  | word :: words =>
    if verb.takesSources then .ok { g with sources := g.sources ++ word :: words }
    else .error (.usage (.unexpected word))

/-- A word that is no flag: a value of the flag before it, or a source. -/
def readWord (verb : Verb) (g : Given) (awaiting : Option Awaiting) (word : String) :
    Except Refusal (Given × Option Awaiting) := do
  match awaiting with
  | some a =>
    return (← g.value a.flag word, if a.flag.arity = .many then some ⟨a.flag, true⟩ else none)
  | none => return (← g.addSources verb [word], none)

/-- Reads what follows a verb. -/
def readGiven (verb : Verb) (g : Given) (awaiting : Option Awaiting) :
    List String → Except Refusal Given
  | [] => do
    Awaiting.close awaiting
    return g
  | word :: words => do
    match word.toList with
    | ['-', '-'] =>
      Awaiting.close awaiting
      g.addSources verb words
    | '-' :: '-' :: text =>
      Awaiting.close awaiting
      let (g, awaiting) ← readName verb.flags g text
      readGiven verb g awaiting words
    | '-' :: c :: text =>
      Awaiting.close awaiting
      let (g, awaiting) ← readLetters verb.flags g (c :: text)
      readGiven verb g awaiting words
    | _ =>
      let (g, awaiting) ← readWord verb g awaiting word
      readGiven verb g awaiting words

/-- Reads the flags in front of a verb, and gives the verb with what follows it. -/
def readVerb (g : Given) : List String → Except Refusal (Given × Verb × List String)
  | [] => .error (.usage .noVerb)
  | word :: words => do
    match word.toList with
    | ['-', '-'] => throw (.usage .noVerb)
    | '-' :: '-' :: text => readVerb (← readName Flag.common g text).1 words
    | '-' :: c :: text => readVerb (← readLetters Flag.common g (c :: text)).1 words
    | _ =>
      match Verb.ofName? word with
      | some verb => return (g, verb, words)
      | none =>
        if word == "help" && words.length ≤ 1 &&
            words.all fun w => w == "help" || (Verb.ofName? w).isSome then
          throw .help
        else throw (.usage (.unknownVerb word))

/-- The variables that are set, with their values. -/
abbrev Environment := List (String × String)

/-- What is given, and the value that the environment has for a flag if the flag is not. -/
def Given.supplied (environment : Environment) (g : Given) (flag : Flag) : Except Refusal Given :=
  match flag.setBy?.bind fun name => List.lookup name environment with
  | some text => if g.has flag then .ok g else g.value flag text
  | none => .ok g

/-- Whether a switch is on. -/
def Given.isOn (g : Given) (flag : Flag) : Bool :=
  g.switches.contains flag || (g.valuesOf flag).contains "true"

/-! ### Commands -/

/-- What is to be done. -/
inductive Task where
  | build (sources : List String) (settings : Settings)
  | upgrade (old new : List String) (settings : Settings)
  | order (sources : List String)
deriving DecidableEq

/-- The settings that are given. -/
def Given.settings (g : Given) : Settings where
  style := { quoteAll := g.isOn .quoteAllNames }
  options := {
    singleStage := g.isOn .singleStage
    onlySchema := g.isOn .onlySchema
    onlyData := g.isOn .onlyData
    manageGrants := !g.isOn .noGrants
    manageOwnership := !g.isOn .noOwnership
    renameTracking := !g.isOn .ignoreOldNames }
  directory := (g.valuesOf .outputDirectory).head?
  stem := (g.valuesOf .stem).head?.getD "ddlstage"
  statementsPerFile := (g.valuesOf .statementsPerFile).head?.bind count?

/-- The task of a verb with what is given for it. -/
def Given.task (g : Given) (verb : Verb) : Except Refusal Task := do
  if g.has .onlySchema && g.has .onlyData then
    throw (.usage (.conflicting .onlySchema .onlyData))
  match verb with
  | .build =>
    if g.sources.isEmpty then throw (.usage (.missing "<SOURCES>..."))
    return .build g.sources g.settings
  | .order =>
    if g.sources.isEmpty then throw (.usage (.missing "<SOURCES>..."))
    return .order g.sources
  | .upgrade =>
    let old := g.valuesOf .old
    let new := g.valuesOf .new
    if old.isEmpty then throw (.usage (.missing "--old <OLD>..."))
    if new.isEmpty then throw (.usage (.missing "--new <NEW>..."))
    return .upgrade old new g.settings

/-- Reads a command line. -/
def Task.ofArguments (arguments : List String) (environment : Environment) :
    Except Refusal Task := do
  let (front, verb, words) ← readVerb {} arguments
  let given ← readGiven verb {} none words
  let given ← verb.flags.foldlM (Given.supplied environment) given
  let task ← given.task verb
  let _ ← Flag.common.foldlM (Given.supplied environment) front
  return task

end SchemaPlan.Command
