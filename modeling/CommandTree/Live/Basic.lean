/-!
# Live trees

A live tree is what a running program shows of its commands.

* `LiveNode` is a group or command of a running program, `LiveParam` one of its parameters.
-/

namespace CommandTree

/-- A parameter of a running program. -/
inductive LiveParam where
  /-- A parameter with a flag. -/
  | option (name : String) (help type default : Option String) (required : Bool)
      (prompt : Option String)
  /-- A parameter with a position. -/
  | argument (name : String) (type default : Option String) (required : Bool)
  deriving DecidableEq, Repr

/-- A group or command of a running program. -/
structure LiveNode where
  /-- The name. -/
  name : String
  /-- The help text. -/
  help : Option String
  /-- Whether the node is left out of listings. -/
  hidden : Bool
  /-- Who may invoke the node. -/
  permission : Option String
  /-- Whether the node can have nodes below it. -/
  isGroup : Bool
  /-- The parameters in order. -/
  params : List LiveParam
  /-- The nodes below, in order. -/
  children : List LiveNode

end CommandTree
