import CommandTree.Lint.Diagnostic
import CommandTree.Schema.Basic
import CommandTree.Text.Blank

/-!
# Lint rules

Some schemas obey the grammar and are still not what anybody means: siblings with one name, nodes
without help, and arguments, which no program will have.  Nodes are located by the names from the
top level down.

* `Schema.visits` lists the nodes with their locations.
* `LintRule.check` is what a rule finds, `Schema.lint` what all of them find.
-/

namespace CommandTree

/-! ### Locations -/

/-- The location of a node below another one; the empty location is the top level. -/
def joinLocation (above name : String) : String :=
  if above = "" then name else above ++ "/" ++ name

/-- A node with its location. -/
structure Visit where
  /-- The kind of the node. -/
  kind : NodeKind
  /-- The location of the node. -/
  location : String
  /-- What the node says about itself. -/
  entry : Entry
  deriving DecidableEq

mutual

/-- The nodes of a group with their locations. -/
def Group.visits (above : String) : Group → List Visit
  | ⟨entry, groups, commands⟩ =>
    let here := joinLocation above entry.name
    ⟨.group, here, entry⟩ ::
      ((commands.map fun command => ⟨.command, joinLocation here command.name, command⟩) ++
        Group.visitsList here groups)

/-- The nodes of some groups with their locations. -/
def Group.visitsList (above : String) : List Group → List Visit
  | [] => []
  | group :: rest => group.visits above ++ Group.visitsList above rest

end

/-- The nodes of a top-level node with their locations. -/
def Node.visits : Node → List Visit
  | .group g => g.visits ""
  | .command e => [⟨.command, e.name, e⟩]

/-- The nodes of a schema with their locations. -/
def Schema.visits (schema : Schema) : List Visit :=
  schema.nodes.flatMap Node.visits

/-! ### Rules -/

/-- What can be checked. -/
inductive LintRule where
  /-- Siblings should have different names. -/
  | duplicateSibling
  /-- Nodes should have a help text. -/
  | emptyHelp
  /-- Arguments are not part of a program. -/
  | argumentDropped
  deriving DecidableEq, Repr

namespace LintRule

/-- The name of a rule. -/
def name : LintRule → String
  | duplicateSibling => "duplicate-sibling"
  | emptyHelp => "empty-help"
  | argumentDropped => "argument-dropped"

/-- All rules, in the order in which they are checked. -/
def all : List LintRule := [duplicateSibling, emptyHelp, argumentDropped]

/-! ### Duplicate siblings -/

/-- The names that stand in a list for the second time, where they do; `seen` are the names
before. -/
def secondNames (seen : List String) : List String → List String
  | [] => []
  | name :: rest =>
    -- a third sibling of one name is not reported again
    (if seen.count name = 1 then [name] else []) ++ secondNames (name :: seen) rest

/-- What the rule says about the names of siblings. -/
def checkSiblings (above : String) (names : List String) : List Diagnostic :=
  (secondNames [] names).map fun name =>
    { severity := .warning
      phase := duplicateSibling.name
      message := "duplicate name '" ++ name ++ "' " ++
        if above = "" then "at the top level" else "under '" ++ above ++ "'"
      location := some (joinLocation above name) }

mutual

/-- What the rule says about the nodes below a group. -/
def checkBelow (above : String) : Group → List Diagnostic
  | ⟨entry, groups, commands⟩ =>
    let here := joinLocation above entry.name
    checkSiblings here (commands.map Entry.name ++ groups.map fun group => group.entry.name) ++
      checkBelowList here groups

/-- What the rule says about the nodes below some groups. -/
def checkBelowList (above : String) : List Group → List Diagnostic
  | [] => []
  | group :: rest => checkBelow above group ++ checkBelowList above rest

end

/-- What the rule says about the nodes below a top-level node. -/
def checkBelowNode : Node → List Diagnostic
  | .group group => checkBelow "" group
  | .command _ => []

/-! ### Nodes one by one -/

/-- Whether a help text says nothing. -/
def saysNothing (help : String) : Bool :=
  isBlankText help || help = absentWord

/-- What is said about a node without help. -/
def checkHelp (visit : Visit) : List Diagnostic :=
  if saysNothing visit.entry.help then
    [{ severity := .warning
       phase := emptyHelp.name
       message := visit.kind.name ++ " '" ++ visit.location ++ "' has no help"
       location := some visit.location }]
  else []

/-- What is said about the arguments of a node. -/
def checkArguments (visit : Visit) : List Diagnostic :=
  (visit.entry.params.filter (!Param.isOption ·)).map fun param =>
    { severity := .info
      phase := argumentDropped.name
      message := "argument '" ++ (param.get? "name").getD "<unnamed>" ++ "' of '" ++
        visit.location ++ "' will not be emitted"
      location := some visit.location }

/-- What a rule finds in a schema. -/
def check (rule : LintRule) (schema : Schema) : List Diagnostic :=
  match rule with
  | duplicateSibling =>
    checkSiblings "" (schema.nodes.map fun node => node.entry.name) ++
      schema.nodes.flatMap checkBelowNode
  | emptyHelp => schema.visits.flatMap checkHelp
  | argumentDropped => schema.visits.flatMap checkArguments

end LintRule

/-- What all rules find in a schema. -/
def Schema.lint (schema : Schema) : List Diagnostic :=
  LintRule.all.flatMap fun rule => rule.check schema

end CommandTree
