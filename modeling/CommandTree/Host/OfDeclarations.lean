import CommandTree.Declaration.Basic
import CommandTree.Host.Basic

/-!
# Hosts from declarations

Declarations are turned into the host that the program is.  The tree is put together again by
looking for the declarations that are attached to each group.

* `hostOfDeclarations` are the host commands of some declarations.
* `OptionDeclaration.hostArg` is the host argument of an option.
-/

namespace CommandTree

/-- The default value of an option as a text. -/
def Literal.hostDefault? : Literal → Option String
  | .text value => some value
  | .truth value => some (if value then "true" else "false")
  | .integer value => some (toString value)
  | .absent => none

/-- A text without the dashes at its start. -/
def withoutDashes (text : String) : String :=
  String.ofList (text.toList.dropWhile (· == '-'))

/-- The host argument of an option. -/
def OptionDeclaration.hostArg (option : OptionDeclaration) : HostArg where
  id := option.argument
  long := some (withoutDashes option.flag)
  help := (option.attributes.get? "help").bind Literal.text?
  required := option.attributes.get? "required" = some (.truth true)
  possible := if option.valueType = some .truth then HostArg.truthValues else []
  defaults := ((option.attributes.get? "default").bind Literal.hostDefault?).toList

/-- The host command of a declaration, given the host commands below it. -/
def Declaration.hostCommand (declaration : Declaration) (subcommands : List HostCommand) :
    HostCommand where
  name := ((declaration.attributes.get? "name").bind Literal.text?).getD declaration.identifier
  about := (declaration.attributes.get? "help").bind Literal.text?
  hidden := declaration.attributes.get? "hidden" = some (.truth true)
  subcommandRequired := declaration.kind = .group
  args := declaration.options.map OptionDeclaration.hostArg
  subcommands := subcommands

/-- The host commands of the declarations that are attached to a parent, at most `levels` deep. -/
def hostChildren (declarations : List Declaration) : (levels : Nat) → Parent → List HostCommand
  | 0, _ => []
  | levels + 1, parent =>
    (declarations.filter (·.parent = parent)).map fun declaration =>
      declaration.hostCommand <|
        match declaration.kind with
        | .group => hostChildren declarations levels (.node declaration.identifier)
        -- nothing is attached to a command
        | .command => []

/-- The host commands of some declarations.  No tree is deeper than the number of its nodes. -/
def hostOfDeclarations (declarations : List Declaration) : List HostCommand :=
  hostChildren declarations declarations.length .root

end CommandTree
