import CheckScript.Text.Split

/-!
# Reading command lines

The arguments of a command are options and plain words. An option has a long name (`--name`) and may
have a letter (`-n`); letters can be written together behind one dash. The value of an option
follows an equals sign, or the letter, or is the next argument, which then must be a plain word.
After `--` all arguments are plain words.

Reading goes from left to right. It ends at the first error, and at an option that asks for help or
for the version, whatever follows.

## Contents

* `OptionSpec`: what is known of an option.
* `Word`: the four ways in which an argument can be written.
* `readOptions`: the options up to the first plain word; `readWords`: options and plain words.
-/

namespace CheckScript.Cli

open Text

/-! ## Options -/

/-- What an option does. -/
inductive OptionKind where
  /-- Is given or not. -/
  | flag
  /-- Is given any number of times. -/
  | counted
  /-- Has a value. -/
  | value
  /-- Is given any number of times, each time with a value. -/
  | values
  /-- Asks for help. -/
  | help
  /-- Asks for the version. -/
  | version
  deriving DecidableEq, Repr

/-- Whether options of the kind have values. -/
def OptionKind.takesValue : OptionKind → Bool
  | .value | .values => true
  | _ => false

/-- Whether options of the kind may be given again. -/
def OptionKind.repeats : OptionKind → Bool
  | .counted | .values => true
  | _ => false

/-- An option of a command. -/
structure OptionSpec where
  name : String
  letter : Option Char := none
  kind : OptionKind := .flag
  deriving DecidableEq, Repr

/-! ## Errors -/

/-- What is wrong with a command line. -/
inductive UsageError where
  | unknownOption (written : String)
  | missingValue (name : String)
  | unexpectedValue (name : String)
  | repeated (name : String)
  | conflict (name other : String)
  | unexpectedWord (word : String)
  | missingWord (name : String)
  | missingCommand
  | unknownCommand (name : String)
  deriving DecidableEq, Repr

/-- What is said about a wrong command line. -/
def UsageError.message : UsageError → String
  | .unknownOption written => "unknown option '" ++ written ++ "'"
  | .missingValue name => "option '--" ++ name ++ "' needs a value"
  | .unexpectedValue name => "option '--" ++ name ++ "' takes no value"
  | .repeated name => "option '--" ++ name ++ "' is given twice"
  | .conflict name other => "options '--" ++ name ++ "' and '--" ++ other ++ "' exclude each other"
  | .unexpectedWord word => "unexpected argument '" ++ word ++ "'"
  | .missingWord name => "missing argument <" ++ name ++ ">"
  | .missingCommand => "missing command"
  | .unknownCommand name => "unknown command '" ++ name ++ "'"

/-- Why the reading of a command line ends early. -/
inductive Halt where
  | help
  | version
  | usage (error : UsageError)
  deriving DecidableEq, Repr

/-! ## Words -/

/-- How an argument is written. -/
inductive Word where
  /-- The mark after which all arguments are plain. -/
  | terminator
  /-- An option by its name, with a value behind an equals sign. -/
  | long (name : String) (value : Option String)
  /-- Options by their letters, possibly with the value of the last one. -/
  | letters (cs : List Char)
  | plain (s : String)
  deriving DecidableEq, Repr

/-- The word that an argument writes. -/
def Word.ofText (argument : String) : Word :=
  match argument.toList with
  | ['-', '-'] => .terminator
  | '-' :: '-' :: cs =>
    match breakOn? ['='] cs with
    | some (name, value) => .long (String.ofList name) (some (String.ofList value))
    | none => .long (String.ofList cs) none
  | '-' :: c :: cs => .letters (c :: cs)
  | _ => .plain argument

/-! ## Matches -/

/-- What was read of a command line. -/
structure Matches where
  /-- The options that were given, with their values; a flag has an empty one. -/
  options : List (String × String) := []
  /-- The plain words. -/
  words : List String := []

namespace Matches

/-- Whether an option was given. -/
def has (given : Matches) (name : String) : Bool := given.options.any (·.1 == name)

/-- The values of an option. -/
def valuesOf (given : Matches) (name : String) : List String :=
  (given.options.filter (·.1 == name)).map (·.2)

/-- The value of an option that was given. -/
def valueOf? (given : Matches) (name : String) : Option String := (given.valuesOf name).head?

/-- Adds an option, unless it ends the reading or must not be given again. -/
def addOption (given : Matches) (spec : OptionSpec) (value : String) : Except Halt Matches :=
  match spec.kind with
  | .help => .error .help
  | .version => .error .version
  | kind =>
    if given.has spec.name && !kind.repeats then .error (.usage (.repeated spec.name))
    else .ok { given with options := given.options ++ [(spec.name, value)] }

/-- Adds a plain word, unless there are as many as `limit` already. -/
def addWord (given : Matches) (limit : Nat) (word : String) : Except Halt Matches :=
  if given.words.length < limit then .ok { given with words := given.words ++ [word] }
  else .error (.usage (.unexpectedWord word))

/-- Adds plain words. -/
def addWords (limit : Nat) : Matches → List String → Except Halt Matches
  | given, [] => .ok given
  | given, word :: words => do addWords limit (← given.addWord limit word) words

end Matches

/-! ## Reading -/

/-- What was read, and an option that waits for its value. -/
structure Progress where
  given : Matches
  waiting : Option OptionSpec := none

/-- Reads an option by its name. -/
def readLong (specs : List OptionSpec) (name : String) (value : Option String) (given : Matches) :
    Except Halt Progress :=
  match specs.find? (·.name == name) with
  | none => .error (.usage (.unknownOption ("--" ++ name)))
  | some spec =>
    match spec.kind.takesValue, value with
    | true, some value => do return { given := ← given.addOption spec value }
    | true, none => .ok { given, waiting := some spec }
    | false, some _ => .error (.usage (.unexpectedValue name))
    | false, none => do return { given := ← given.addOption spec "" }

/-- Reads options by their letters. -/
def readLetters (specs : List OptionSpec) : List Char → Matches → Except Halt Progress
  | [], given => .ok { given }
  | c :: cs, given =>
    match specs.find? (·.letter == some c) with
    | none => .error (.usage (.unknownOption (String.ofList ['-', c])))
    | some spec =>
      match spec.kind.takesValue, cs with
      | false, cs => do readLetters specs cs (← given.addOption spec "")
      | true, [] => .ok { given, waiting := some spec }
      | true, '=' :: value => do return { given := ← given.addOption spec (String.ofList value) }
      | true, value => do return { given := ← given.addOption spec (String.ofList value) }

/-- Reads an argument that is an option or its value; none if it is neither. -/
def readOption? (specs : List OptionSpec) (progress : Progress) (argument : String) :
    Except Halt (Option Progress) :=
  match progress, Word.ofText argument with
  | ⟨given, some spec⟩, .plain value => do return some { given := ← given.addOption spec value }
  | ⟨_, some spec⟩, _ => .error (.usage (.missingValue spec.name))
  | ⟨given, none⟩, .long name value => some <$> readLong specs name value given
  | ⟨given, none⟩, .letters cs => some <$> readLetters specs cs given
  | ⟨_, none⟩, _ => .ok none

/-- What was read, if no option waits for its value. -/
def Progress.finish : Progress → Except Halt Matches
  | ⟨_, some spec⟩ => .error (.usage (.missingValue spec.name))
  | ⟨given, none⟩ => .ok given

/-- Reads arguments up to the first one that is no option, which is left with those after it. -/
def readOptions (specs : List OptionSpec) (progress : Progress) :
    List String → Except Halt (Matches × List String)
  | [] => do return (← progress.finish, [])
  | argument :: arguments => do
    match ← readOption? specs progress argument with
    | some progress => readOptions specs progress arguments
    | none => return (progress.given, argument :: arguments)

/-- Reads options and at most `limit` plain words. -/
def readWords (specs : List OptionSpec) (limit : Nat) (progress : Progress) :
    List String → Except Halt Matches
  | [] => progress.finish
  | argument :: arguments => do
    match ← readOption? specs progress argument with
    | some progress => readWords specs limit progress arguments
    | none =>
      if Word.ofText argument = .terminator then progress.given.addWords limit arguments
      else readWords specs limit { given := ← progress.given.addWord limit argument } arguments

end CheckScript.Cli
