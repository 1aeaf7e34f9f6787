import CommandTree.CommandLine.Spec
import CommandTree.OrderedMap

/-!
# Reading command lines

The words of a command line are matched with what a program takes.  A value stands behind its flag,
as part of the same word or as the next one; short switches may share a word; two dashes end the
flags.  No argument may be given twice.  The first thing that does not fit is reported.

* `ProgramSpec.parse` finds the command and the values of a command line.
* `UsageError` is why a command line cannot be carried out.
-/

namespace CommandTree

/-- Why a command line does not name a command to carry out. -/
inductive UsageError where
  /-- An argument is not known. -/
  | unknownArgument
  /-- A command is not known. -/
  | unknownCommand
  /-- There is no command. -/
  | missingCommand
  /-- An argument that must be given is not given. -/
  | missingArgument
  /-- A value is missing or not one that the argument takes. -/
  | invalidValue
  /-- A switch has a value. -/
  | unneededValue
  /-- An argument is given twice. -/
  | repeatedArgument
  /-- Help is asked for. -/
  | helpWanted
  /-- The version is asked for. -/
  | versionWanted
  /-- There is nothing at all. -/
  | nothingGiven
  deriving DecidableEq, Repr

/-- The error in words. -/
def UsageError.message : UsageError → String
  | unknownArgument => "unknown argument"
  | unknownCommand => "unknown command"
  | missingCommand => "a command is required"
  | missingArgument => "an argument is required"
  | invalidValue => "a value is missing or not allowed"
  | unneededValue => "an option takes no value"
  | repeatedArgument => "an option is given more than once"
  | helpWanted => "help"
  | versionWanted => "version"
  | nothingGiven => "help"

/-! ### Words -/

/-- A word of a command line. -/
inductive Word where
  /-- The mark that ends the flags. -/
  | escape
  /-- A long flag, with a value at most. -/
  | long (name : String) (value : Option String)
  /-- Short flags, and a value behind the last one at most. -/
  | short (flags : List Char)
  /-- Anything else. -/
  | plain (text : String)
  deriving DecidableEq, Repr

/-- What a word is. -/
def Word.ofText (text : String) : Word :=
  match text.toList with
  | ['-', '-'] => .escape
  | '-' :: '-' :: rest =>
    .long (String.ofList (rest.takeWhile (· ≠ '=')))
      (match rest.dropWhile (· ≠ '=') with
        | _ :: value => some (String.ofList value)
        | [] => none)
  | '-' :: c :: rest => .short (c :: rest)
  | _ => .plain text

/-! ### Matching -/

/-- What has been matched of a command line. -/
structure Matching where
  /-- The values of arguments. -/
  values : Members String := []
  /-- The argument whose value comes next, or has come but not been looked at. -/
  pending : Option (ArgSpec × Option String) := none
  /-- The arguments by place that have not been given. -/
  positional : List ArgSpec
  /-- Whether the flags have ended. -/
  escaped : Bool := false

namespace Matching

variable (matching : Matching)

/-- Notes the value of an argument. -/
def note (arg : ArgSpec) (value : String) : Except UsageError Matching :=
  if (matching.values.get? arg.id).isSome then .error .repeatedArgument
  else
    let accepted := match arg.effect with
      | .value kind => kind.accepts value
      | _ => true
    if accepted then .ok { matching with values := matching.values.insert arg.id value }
    else .error .invalidValue

/-- Notes the value that is pending. -/
def settle : Except UsageError Matching :=
  match matching.pending with
  | none => .ok matching
  | some (_, none) => .error .invalidValue
  | some (arg, some value) => { matching with pending := none }.note arg value

/-- Whether the next word is a value if it is no flag. -/
def awaitsValue : Bool :=
  !matching.escaped &&
    match matching.pending with
    | some (_, none) => true
    | _ => false

/-- Takes a flag without a value. -/
def takeSwitch (arg : ArgSpec) : Except UsageError Matching := do
  let matching ← matching.settle
  match arg.effect with
  | .help => throw .helpWanted
  | .version => throw .versionWanted
  | _ => matching.note arg "true"

/-- Takes a flag that needs a value, which may be attached. -/
def takeOption (arg : ArgSpec) (value : Option String) : Except UsageError Matching := do
  let matching ← matching.settle
  match value with
  | some value => matching.note arg value
  | none => return { matching with pending := some (arg, none) }

/-- Whether an argument takes a value. -/
def takesValue (arg : ArgSpec) : Bool :=
  match arg.effect with
  | .value _ => true
  | _ => false

/-- Takes a long flag. -/
def takeLong (args : List ArgSpec) (name : String) (value : Option String) :
    Except UsageError Matching :=
  match args.find? (·.long = some name) with
  | none => .error .unknownArgument
  | some arg =>
    if takesValue arg then matching.takeOption arg value
    else if value.isSome then .error .unneededValue
    else matching.takeSwitch arg

/-- Takes short flags; what follows a flag that needs a value is its value. -/
def takeShort (args : List ArgSpec) (matching : Matching) : List Char → Except UsageError Matching
  | [] => .ok matching
  | c :: rest =>
    match args.find? (·.short = some c) with
    | none => .error .unknownArgument
    | some arg =>
      if takesValue arg then
        matching.takeOption arg <|
          match rest with
          | [] => none
          -- an equals sign between a short flag and its value is no part of the value
          | '=' :: value => some (String.ofList value)
          | value => some (String.ofList value)
      else do takeShort args (← matching.takeSwitch arg) rest

/-- Takes a word that is neither a flag nor the value of one; `otherwise` is the error if no
argument by place is left. -/
def takePositional (text : String) (otherwise : UsageError) : Except UsageError Matching :=
  match matching.positional with
  | [] => .error otherwise
  | arg :: rest => do
    return { ← matching.settle with pending := some (arg, some text), positional := rest }

/-- Takes one word; `otherwise` is the error if it has no place. -/
def take (args : List ArgSpec) (word : String) (otherwise : UsageError) :
    Except UsageError Matching :=
  if matching.escaped then matching.takePositional word otherwise
  else match Word.ofText word with
    | .escape => .ok { matching with escaped := true }
    | .long name value => matching.takeLong args name value
    | .short flags => takeShort args matching flags
    | .plain text =>
      match matching.pending with
      -- the value is looked at when the next argument comes or the line ends
      | some (arg, none) => .ok { matching with pending := some (arg, some text) }
      | _ => matching.takePositional text otherwise

/-- What has been matched before any word. -/
def start (args : List ArgSpec) : Matching where
  positional := args.filter ArgSpec.isPositional

end Matching

/-! ### Commands -/

/-- The option that asks for help. -/
def helpOption : ArgSpec where
  id := "help"
  long := some "help"
  short := some 'h'
  help := "Print help"
  effect := .help

/-- The option that asks for the version. -/
def versionOption : ArgSpec where
  id := "version"
  long := some "version"
  short := some 'V'
  help := "Print version"
  effect := .version

/-- The command that asks for help. -/
def helpCommand : String := "help"

/-- A command line that has been understood. -/
structure CommandLine where
  /-- The name of the command. -/
  command : String
  /-- The values of the arguments, defaults included. -/
  values : Members String
  deriving DecidableEq, Repr

namespace CommandSpec

/-- The values that the words behind the name of a command give. -/
def parse (command : CommandSpec) (options : List ArgSpec) (words : List String) :
    Except UsageError (Members String) := do
  let args := command.args ++ options ++ [helpOption]
  let matching ← words.foldlM
    (fun (matching : Matching) word => matching.take args word .unknownArgument)
    (Matching.start args)
  let values := (← matching.settle).values
  if args.any fun arg => arg.required && (values.get? arg.id).isNone then throw .missingArgument
  return values

/-- The default values of the arguments of a command. -/
def defaults (command : CommandSpec) : Members String :=
  command.args.filterMap fun arg => arg.default.map (arg.id, ·)

end CommandSpec

namespace ProgramSpec

variable (program : ProgramSpec)

/-- The answer to the words behind the command that asks for help. -/
def parseHelp (words : List String) : UsageError :=
  match words with
  | [] => .helpWanted
  | [name] =>
    if name = helpCommand || program.commands.any (·.name = name) then .helpWanted
    else .unknownCommand
  | _ => .unknownCommand

/-- The error for a word that is no command: behind the mark that ends the flags, a command is an
unknown argument. -/
def strayWord (escaped : Bool) (word : String) : UsageError :=
  if escaped && (word = helpCommand || program.commands.any (·.name = word)) then .unknownArgument
  else .unknownCommand

/-- Reads the words of a command line from the given state on. -/
def parseFrom (matching : Matching) : List String → Except UsageError CommandLine
  | [] => do
    let matching ← matching.settle
    if matching.values.isEmpty then throw .nothingGiven
    throw .missingCommand
  | word :: rest =>
    let isCommand := !matching.escaped && !matching.awaitsValue
    if isCommand && word = helpCommand then .error (program.parseHelp rest)
    else match if isCommand then program.commands.find? (·.name = word) else none with
      | some command => do
        -- an error behind the command comes before one of the words in front of it
        let inner ← command.parse program.options rest
        let outer ← matching.settle
        return ⟨command.name,
          Members.insertAll (Members.insertAll command.defaults outer.values) inner⟩
      | none => do
        let args := program.options ++ [helpOption, versionOption]
        parseFrom (← matching.take args word (program.strayWord matching.escaped word)) rest

/-- Reads the words of a command line. -/
def parse (words : List String) : Except UsageError CommandLine :=
  program.parseFrom (.start []) words

end ProgramSpec

end CommandTree
