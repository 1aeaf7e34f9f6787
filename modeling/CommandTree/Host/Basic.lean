import CommandTree.Live.Basic

/-!
# Host commands

A host is a program that reads its own command line.  It describes itself by host commands: each one
has arguments and further commands below it.

* `HostCommand` is such a description, `HostArg` one of its arguments.
* `HostCommand.live` is the live tree that a host shows.
* `HostCommand.inPlainText` is a host whose help texts have lost their styles.
-/

namespace CommandTree

/-- What an argument does when it is given. -/
inductive HostAction where
  /-- It takes a value. -/
  | set
  /-- It takes another value each time. -/
  | append
  /-- It becomes true. -/
  | setTrue
  /-- It becomes false. -/
  | setFalse
  /-- It counts. -/
  | count
  /-- It shows the help text, short or long. -/
  | help
  /-- It shows the version. -/
  | version
  deriving DecidableEq, Repr

/-- An argument of a host command. -/
structure HostArg where
  /-- The name under which the value is found. -/
  id : String
  /-- The long flag. -/
  long : Option String := none
  /-- The short flag. -/
  short : Option String := none
  /-- The help text. -/
  help : Option String := none
  /-- Whether the argument must be given. -/
  required : Bool := false
  /-- What the argument does. -/
  action : HostAction := .set
  /-- The values that it may take; none if it may take every value. -/
  possible : List String := []
  /-- The values that it has unless it is given. -/
  defaults : List String := []
  deriving DecidableEq, Repr

/-- A command of a host. -/
structure HostCommand where
  /-- The name. -/
  name : String
  /-- The help text. -/
  about : Option String
  /-- Whether the command is left out of listings. -/
  hidden : Bool
  /-- Whether one of the commands below must be given. -/
  subcommandRequired : Bool
  /-- The arguments in order. -/
  args : List HostArg
  /-- The commands below, in order. -/
  subcommands : List HostCommand

namespace HostArg

/-- The two values of a truth value. -/
def truthValues : List String := ["true", "false"]

/-- Whether an argument has no flag. -/
def isPositional (arg : HostArg) : Bool :=
  arg.long.isNone && arg.short.isNone

/-- Whether an argument is one that every program has. -/
def isGeneral (arg : HostArg) : Bool :=
  arg.action = .help || arg.action = .version

/-- The word for the type of an argument. -/
def typeWord (arg : HostArg) : String :=
  match arg.action with
  | .setTrue | .setFalse => "BOOL"
  | .count => "INT"
  | _ => if arg.possible = truthValues then "BOOL" else "STRING"

/-- The default value of an argument in one text. -/
def defaultText (arg : HostArg) : Option String :=
  match arg.defaults with
  | [] => none
  | [value] =>
    if arg.typeWord = "BOOL" then
      some (if value = "true" then "True" else if value = "false" then "False" else value)
    else some value
  | values => some (" ".intercalate values)

/-- The parameter that a host shows. -/
def live (arg : HostArg) : LiveParam :=
  if arg.isPositional then
    .argument arg.id (some arg.typeWord) arg.defaultText arg.required
  else
    .option (arg.long.getD arg.id) arg.help (some arg.typeWord) arg.defaultText arg.required none

/-- An argument with its help text in plain text. -/
def inPlainText (plain : String → String) (arg : HostArg) : HostArg :=
  { arg with help := arg.help.map plain }

/-- An argument with the default value that its action implies. -/
def withImpliedDefault (arg : HostArg) : HostArg :=
  if arg.defaults.isEmpty then
    match arg.action with
    | .setTrue => { arg with defaults := ["false"] }
    | .setFalse => { arg with defaults := ["true"] }
    | .count => { arg with defaults := ["0"] }
    | _ => arg
  else arg

end HostArg

namespace HostCommand

mutual

/-- The live tree that a host shows, with all texts as they are set.  A command is a group if there
are commands below it or if one of them must be given. -/
def live : HostCommand → LiveNode
  | ⟨name, about, hidden, subcommandRequired, args, subcommands⟩ =>
    { name, help := about, hidden
      permission := none
      isGroup := !subcommands.isEmpty || subcommandRequired
      params := (args.filter (!HostArg.isGeneral ·)).map HostArg.live
      children := liveList subcommands }

/-- The live trees of some commands. -/
def liveList : List HostCommand → List LiveNode
  | [] => []
  | command :: rest => live command :: liveList rest

end

mutual

/-- A command with its help texts, and those of everything below it, in plain text.  A library that
reads command lines keeps help texts with their styles, and gives back the plain text of each: what
`plain` makes of it.  Nothing else about a command has a style. -/
def inPlainText (plain : String → String) : HostCommand → HostCommand
  | ⟨name, about, hidden, subcommandRequired, args, subcommands⟩ =>
    { name, about := about.map plain, hidden, subcommandRequired
      args := args.map (HostArg.inPlainText plain)
      subcommands := inPlainTextList plain subcommands }

/-- Some commands with their help texts in plain text. -/
def inPlainTextList (plain : String → String) : List HostCommand → List HostCommand
  | [] => []
  | command :: rest => inPlainText plain command :: inPlainTextList plain rest

end

/-- A command whose arguments have the default values that their actions imply. -/
def withImpliedDefaults (command : HostCommand) : HostCommand :=
  { command with args := command.args.map HostArg.withImpliedDefault }

end HostCommand

end CommandTree
