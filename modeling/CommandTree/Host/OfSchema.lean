import CommandTree.Host.Basic
import CommandTree.Schema.Basic

/-!
# Hosts from schemas

A schema is turned into the host it describes, with its texts as they stand: the word for an absent
value is no help text and no default value.  Parameters without a name are left out, and so are
prompts.

* `Schema.host` are the host commands of a schema.
-/

namespace CommandTree

/-- A text unless it is the word for an absent value. -/
def presentText (text : String) : Option String :=
  if text = absentWord then none else some text

/-- The host argument of a parameter, if the parameter has a name. -/
def Param.hostArg? (param : Param) : Option HostArg := do
  let name ← param.get? "name"
  let isTruth := param.get? "type" = some "BOOL"
  let default := (param.get? "default").bind presentText
  return {
    id := name
    long := if param.isOption then some name else none
    help := (param.get? "help").bind presentText
    required := param.get? "required" = some "True"
    possible := if isTruth then HostArg.truthValues else []
    defaults := default.toList.map fun text =>
      if isTruth && text = "True" then "true"
      else if isTruth && text = "False" then "false"
      else text }

/-- The host command of a node, given the host commands below it. -/
def Entry.hostCommand (entry : Entry) (subcommandRequired : Bool)
    (subcommands : List HostCommand) : HostCommand where
  name := entry.name
  about := presentText entry.help
  hidden := entry.hidden = "True"
  subcommandRequired := subcommandRequired
  args := entry.params.filterMap Param.hostArg?
  subcommands := subcommands

/-- The host command of a command. -/
def Entry.host (entry : Entry) : HostCommand :=
  entry.hostCommand false []

mutual

/-- The host command of a group: first its commands are below it, then its groups. -/
def Group.host : Group → HostCommand
  | ⟨entry, groups, commands⟩ =>
    entry.hostCommand true (commands.map Entry.host ++ Group.hostList groups)

/-- The host commands of some groups. -/
def Group.hostList : List Group → List HostCommand
  | [] => []
  | group :: rest => group.host :: Group.hostList rest

end

/-- The host command of a top-level node. -/
def Node.host : Node → HostCommand
  | .group g => g.host
  | .command e => e.host

/-- The host commands of a schema. -/
def Schema.host (schema : Schema) : List HostCommand :=
  schema.nodes.map Node.host

end CommandTree
