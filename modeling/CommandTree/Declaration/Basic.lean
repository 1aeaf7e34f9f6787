import CommandTree.Declaration.Literal

/-!
# Declarations

A program is a flat sequence of declarations, one for each node of a schema.  A declaration refers
to the group around it by an identifier.

* `Declaration` is a group or a command, `OptionDeclaration` one of its options.
-/

namespace CommandTree

/-- What a declaration is attached to. -/
inductive Parent where
  /-- The program itself. -/
  | root
  /-- The group with an identifier. -/
  | node (identifier : String)
  deriving DecidableEq, Repr

/-- An option of a declaration. -/
structure OptionDeclaration where
  /-- The flag, as in `--user`. -/
  flag : String
  /-- The identifier to which the value is bound. -/
  argument : String
  /-- The attributes other than the name and the type, in order. -/
  attributes : OrderedMap Literal
  /-- The declared type. -/
  valueType : Option ValueType
  deriving DecidableEq

/-- A group or command of a program. -/
structure Declaration where
  /-- Whether it is a group or a command. -/
  kind : NodeKind
  /-- What it is attached to. -/
  parent : Parent
  /-- The identifier by which other declarations refer to it. -/
  identifier : String
  /-- Its name, its help and whether it is hidden. -/
  attributes : OrderedMap Literal
  /-- Its options. -/
  options : List OptionDeclaration
  deriving DecidableEq

/-- The identifiers of some declarations. -/
def identifiers (declarations : List Declaration) : List String :=
  declarations.map Declaration.identifier

end CommandTree
