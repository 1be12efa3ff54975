import CheckScript.Cli.Words

/-!
# Requests

What a command line asks for. Its first plain word is the command; where it is none of the commands,
it is the script of a `run`. The options `--no-color` and `--verbose` may stand before and after the
command.
-/

namespace CheckScript.Cli

/-! ## What can be asked for -/

/-- What a script is run on. -/
inductive RunInput where
  | nothing
  | text (s : String)
  /-- The value that a JSON text writes. -/
  | json (text : String)
  deriving DecidableEq, Repr

/-- What is to be done with a script. -/
inductive RunGoal where
  /-- Show how its lines are nested. -/
  | outline
  /-- Only compile it. -/
  | compile
  /-- Run it, and print its result as JSON or as it is. -/
  | execute (input : RunInput) (asJson : Bool)
  deriving DecidableEq, Repr

/-- What is to be done with tests. -/
inductive TestGoal where
  | listCategories
  /-- Run those of some categories; of all, if there are none. -/
  | run (categories : List String)
  deriving DecidableEq, Repr

/-- What a command line asks for. -/
inductive Request where
  | run (file : String) (goal : RunGoal)
  | test (path : String) (goal : TestGoal) (colored : Bool)
  | checks (suite : String) (pretty : Bool)
  | commands
  deriving DecidableEq, Repr

/-! ## Options -/

/-- The options that stand before and after the command. -/
def sharedOptions : List OptionSpec := [
  { name := "no-color" },
  { name := "verbose", letter := some 'v', kind := .counted },
  { name := "help", letter := some 'h', kind := .help }]

/-- The options before the command. -/
def topOptions : List OptionSpec :=
  sharedOptions ++ [{ name := "version", letter := some 'V', kind := .version }]

/-- The options of `run`. -/
def runOptions : List OptionSpec := sharedOptions ++ [
  { name := "list-commands" },
  { name := "input", letter := some 'i', kind := .value },
  { name := "input-json", kind := .value },
  { name := "json" },
  { name := "check" },
  { name := "ast" }]

/-- The options of `test`. -/
def testOptions : List OptionSpec := sharedOptions ++ [
  { name := "category", letter := some 'c', kind := .values },
  { name := "list-categories" }]

/-- The options of `checks`. -/
def checksOptions : List OptionSpec := sharedOptions ++ [{ name := "pretty" }]

/-! ## Requests of the commands -/

/-- The one plain word of a command. -/
def Matches.oneWord (given : Matches) (name : String) : Except Halt String :=
  match given.words with
  | word :: _ => .ok word
  | [] => .error (.usage (.missingWord name))

/-- The input that the options of `run` give. -/
def runInput (given : Matches) : Except Halt RunInput :=
  match given.valueOf? "input", given.valueOf? "input-json" with
  | some _, some _ => .error (.usage (.conflict "input" "input-json"))
  | some s, none => .ok (.text s)
  | none, some text => .ok (.json text)
  | none, none => .ok .nothing

/-- The request of `run`. -/
def runRequest (arguments : List String) : Except Halt Request := do
  let given ← readWords runOptions 1 { given := {} } arguments
  let input ← runInput given
  if given.has "list-commands" then return .commands
  let file ← given.oneWord "FILE"
  return .run file <|
    if given.has "ast" then .outline
    else if given.has "check" then .compile
    else .execute input (given.has "json")

/-- The request of `test`. -/
def testRequest (colored : Bool) (arguments : List String) : Except Halt Request := do
  let given ← readWords testOptions 1 { given := {} } arguments
  let path ← given.oneWord "PATH"
  let goal :=
    if given.has "list-categories" then .listCategories else .run (given.valuesOf "category")
  return .test path goal (colored && !given.has "no-color")

/-- The request of `checks`. -/
def checksRequest (arguments : List String) : Except Halt Request := do
  let given ← readWords checksOptions 1 { given := {} } arguments
  return .checks (← given.oneWord "SUITE") (given.has "pretty")

/-- The request of `commands`. -/
def commandsRequest (arguments : List String) : Except Halt Request := do
  let _ ← readWords sharedOptions 0 { given := {} } arguments
  return .commands

/-! ## Command lines -/

/-- The commands. -/
def commandNames : List String := ["run", "test", "checks", "commands", "help"]

/-- The answer to `help`, which may be asked about one of the commands. -/
def helpRequest : List String → Halt
  | [] => .help
  | name :: others =>
    if !commandNames.contains name then .usage (.unknownCommand name)
    else match others with
      | [] => .help
      | other :: _ => .usage (.unknownCommand other)

/-- The request of a command. -/
def commandRequest (colored : Bool) (name : String) (arguments : List String) :
    Except Halt Request :=
  match name with
  | "run" => runRequest arguments
  | "test" => testRequest colored arguments
  | "checks" => checksRequest arguments
  | "commands" => commandsRequest arguments
  | "help" => .error (helpRequest arguments)
  | _ => .error (.usage (.unknownCommand name))

/-- The command line with `run` in front of its first word, unless that is a command. -/
def insertRun : List String → List String
  | [] => []
  | argument :: arguments =>
    if argument.toList.head? = some '-' then argument :: insertRun arguments
    else if commandNames.contains argument then argument :: arguments
    else "run" :: argument :: arguments

/-- What a command line asks for. -/
def Request.ofArguments (arguments : List String) : Except Halt Request := do
  match ← readOptions topOptions { given := {} } (insertRun arguments) with
  | (_, []) => .error (.usage .missingCommand)
  | (given, name :: arguments) => commandRequest (!given.has "no-color") name arguments

end CheckScript.Cli
