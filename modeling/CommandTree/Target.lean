import CommandTree.Declaration.EntryPoint

/-!
# Targets

A target is a library in which command-line programs are written.  It says how a declaration is
written; a program is a header, all declarations in order, and a footer that starts the program.

* `Schema.compile` is the text of the declarations of a schema.
* `Schema.compileProgram` is the text of the whole program.
-/

namespace CommandTree

/-- How programs are written. -/
structure Target where
  /-- The name of the target. -/
  name : String
  /-- What top-level declarations are attached to. -/
  root : String
  /-- The text before all declarations. -/
  header : String
  /-- The text of a declaration. -/
  declaration : Declaration → String
  /-- The text after all declarations, which starts with the declaration of an identifier. -/
  footer : String → String

/-- The text of some declarations. -/
def Target.body (target : Target) (declarations : List Declaration) : String :=
  String.join (declarations.map target.declaration)

/-- The text of the declarations of a schema. -/
def Schema.compile (target : Target) (schema : Schema) : Except ConfigurationError String := do
  return target.body (← schema.lower)

/-- The text of a program that starts with the requested node. -/
def Schema.compileProgram (target : Target) (schema : Schema) (requested : Option String) :
    Except ConfigurationError String := do
  let declarations ← schema.lower
  let identifier ← CommandTree.entryPoint declarations requested
  return target.header ++ target.body declarations ++ target.footer identifier

end CommandTree
