import CommandTree.Host.Basic

/-!
# What a command line may hold

A program has options that may stand anywhere and commands with arguments of their own.

* `ProgramSpec` describes a program, `CommandSpec` one of its commands, `ArgSpec` one argument.
* `ProgramSpec.host` is the program as a host command.
-/

namespace CommandTree

/-- The values that an argument takes. -/
inductive ValueKind where
  /-- Every text. -/
  | text
  /-- Every text that is not empty, as the path of a file. -/
  | path
  /-- One of some words. -/
  | oneOf (words : List String)
  deriving DecidableEq, Repr

/-- Whether a value is one that an argument takes. -/
def ValueKind.accepts : ValueKind → String → Bool
  | text, _ => true
  | path, value => value ≠ ""
  | oneOf words, value => words.contains value

/-- What an argument does. -/
inductive ArgEffect where
  /-- It is given or not. -/
  | switch
  /-- It takes a value. -/
  | value (kind : ValueKind)
  /-- It asks for help. -/
  | help
  /-- It asks for the version. -/
  | version
  deriving DecidableEq, Repr

/-- An argument of a command line.  Without a flag it is recognised by its place. -/
structure ArgSpec where
  /-- The name under which the value is found. -/
  id : String
  /-- The long flag. -/
  long : Option String := none
  /-- The short flag. -/
  short : Option Char := none
  /-- The help text. -/
  help : String
  /-- What the argument does. -/
  effect : ArgEffect
  /-- Whether the argument must be given. -/
  required : Bool := false
  /-- The value unless the argument is given. -/
  default : Option String := none
  deriving DecidableEq, Repr

/-- A command of a program. -/
structure CommandSpec where
  /-- The name. -/
  name : String
  /-- The help text. -/
  help : String
  /-- The arguments in order. -/
  args : List ArgSpec
  deriving DecidableEq, Repr

/-- A program. -/
structure ProgramSpec where
  /-- The name. -/
  name : String
  /-- The help text. -/
  help : String
  /-- The options that may stand anywhere. -/
  options : List ArgSpec
  /-- The commands in order. -/
  commands : List CommandSpec
  deriving DecidableEq, Repr

namespace ArgSpec

/-- Whether an argument is recognised by its place. -/
def isPositional (arg : ArgSpec) : Bool :=
  arg.long.isNone && arg.short.isNone

/-- The argument as that of a host. -/
def host (arg : ArgSpec) : HostArg where
  id := arg.id
  long := arg.long
  short := arg.short.map fun c => String.singleton c
  help := some arg.help
  required := arg.required
  action :=
    match arg.effect with
    | .switch => .setTrue
    | .value _ => .set
    | .help => .help
    | .version => .version
  possible :=
    match arg.effect with
    | .value (.oneOf words) => words
    | _ => []
  defaults := arg.default.toList

end ArgSpec

/-- The command as that of a host. -/
def CommandSpec.host (command : CommandSpec) : HostCommand where
  name := command.name
  about := some command.help
  hidden := false
  subcommandRequired := false
  args := command.args.map ArgSpec.host
  subcommands := []

/-- The program as a host. -/
def ProgramSpec.host (program : ProgramSpec) : HostCommand where
  name := program.name
  about := some program.help
  hidden := false
  subcommandRequired := true
  args := program.options.map ArgSpec.host
  subcommands := program.commands.map CommandSpec.host

end CommandTree
