import CommandTree.Schema.Basic
import CommandTree.Text.Blank

/-!
# Outlines

An outline lists the nodes of a schema in document order, one to a line: the names alone or with the
help texts, indented by their depth, or the names with a summary behind the branches of a drawn
tree.

* `Schema.outline` is the outline of a schema.
-/

namespace CommandTree

/-- The ways to draw an outline. -/
inductive OutlineStyle where
  /-- Indented names. -/
  | simple
  /-- Indented names and help texts. -/
  | withHelp
  /-- A tree with branches. -/
  | treeBox
  deriving DecidableEq, Repr

/-! ### Indented outlines -/

/-- The line of a node in an indented outline. -/
def indentedLine (help : Bool) (indent : String) (depth : Nat) (entry : Entry) : String :=
  String.join (List.replicate depth indent) ++ entry.name ++
    (if help then " - " ++ entry.help else "")

mutual

/-- The lines of a group and the nodes below it. -/
def Group.indentedLines (help : Bool) (indent : String) (depth : Nat) : Group → List String
  | ⟨entry, groups, commands⟩ =>
    indentedLine help indent depth entry ::
      (commands.map (indentedLine help indent (depth + 1)) ++
        Group.indentedLinesList help indent (depth + 1) groups)

/-- The lines of some groups. -/
def Group.indentedLinesList (help : Bool) (indent : String) (depth : Nat) :
    List Group → List String
  | [] => []
  | group :: rest =>
    group.indentedLines help indent depth ++ Group.indentedLinesList help indent depth rest

end

/-- The lines of a top-level node. -/
def Node.indentedLines (help : Bool) (indent : String) : Node → List String
  | .group g => g.indentedLines help indent 0
  | .command e => [indentedLine help indent 0 e]

/-! ### Drawn trees -/

/-- A number of things, in words. -/
def countWords (count : Nat) (noun : String) : List String :=
  if count = 0 then []
  else if count = 1 then ["1 " ++ noun]
  else [toString count ++ " " ++ noun ++ "s"]

/-- What a drawn tree says about a node behind its name. -/
def summary (kind : NodeKind) (entry : Entry) : List String :=
  (match kind with
    | .group => ["group"]
    | .command => []) ++
    countWords (entry.params.countP Param.isOption) "option" ++
    countWords (entry.params.countP (!Param.isOption ·)) "argument" ++
    if entry.hidden = "True" then ["hidden"] else []

/-- The line of a node in a drawn tree; `lead` is what the branches of the nodes around it take
up. -/
def boxLine (lead : String) (last : Bool) (kind : NodeKind) (entry : Entry) : String :=
  let summary := summary kind entry
  lead ++ (if last then "└─ " else "├─ ") ++ entry.name ++
    if summary.isEmpty then "" else " (" ++ ", ".intercalate summary ++ ")"

/-- What the branch of a node takes up before the lines of the nodes below it. -/
def boxCell (last : Bool) : String :=
  if last then "   " else "│  "

/-- The lines of some commands with the same parent; `end?` says whether no sibling comes after
them. -/
def commandBoxLines (lead : String) (end? : Bool) : List Entry → List String
  | [] => []
  | command :: rest =>
    boxLine lead (rest.isEmpty && end?) .command command :: commandBoxLines lead end? rest

mutual

/-- The lines of a group and the nodes below it. -/
def Group.boxLines (lead : String) (last : Bool) : Group → List String
  | ⟨entry, groups, commands⟩ =>
    let inner := lead ++ boxCell last
    boxLine lead last .group entry ::
      (commandBoxLines inner groups.isEmpty commands ++ Group.boxLinesList inner groups)

/-- The lines of some groups that are the last ones among their siblings. -/
def Group.boxLinesList (lead : String) : List Group → List String
  | [] => []
  | group :: rest => group.boxLines lead rest.isEmpty ++ Group.boxLinesList lead rest

end

/-- The lines of the top-level nodes. -/
def nodeBoxLines : List Node → List String
  | [] => []
  | .group group :: rest => group.boxLines "" rest.isEmpty ++ nodeBoxLines rest
  | .command entry :: rest => boxLine "" rest.isEmpty .command entry :: nodeBoxLines rest

/-! ### Outlines -/

/-- The lines of an outline. -/
def Schema.outlineLines (schema : Schema) (style : OutlineStyle) (indent : String) :
    List String :=
  match style with
  | .simple => schema.nodes.flatMap (Node.indentedLines false indent)
  | .withHelp => schema.nodes.flatMap (Node.indentedLines true indent)
  | .treeBox => nodeBoxLines schema.nodes

/-- The outline of a schema. -/
def Schema.outline (schema : Schema) (style : OutlineStyle) (indent : String) : String :=
  String.join ((schema.outlineLines style indent).map (· ++ "\n"))

/-- What an outline is indented by unless something else is asked for. -/
def defaultIndent : String := "  "

/-- The outline of a schema as it is shown: without white space at its end. -/
def Schema.shownOutline (schema : Schema) (style : OutlineStyle) (indent : String) : String :=
  trimEndBlank (schema.outline style indent)

end CommandTree
