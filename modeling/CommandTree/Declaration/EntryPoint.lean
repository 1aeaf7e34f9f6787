import CommandTree.Declaration.Lowering

/-!
# Entry points

A program starts with one of its top-level declarations: the first one, unless another one is asked
for by its name or by its identifier.
-/

namespace CommandTree

/-- Whether a declaration answers to a name. -/
def Declaration.answersTo (declaration : Declaration) (name : String) : Bool :=
  declaration.identifier = name || declaration.attributes.get? nameKey = some (.text name)

/-- The declarations at the top level. -/
def topLevel (declarations : List Declaration) : List Declaration :=
  declarations.filter (·.parent = .root)

/-- The identifier of the declaration to start with. -/
def entryPoint (declarations : List Declaration) (requested : Option String) :
    Except ConfigurationError String :=
  match requested with
  | some name =>
    match (topLevel declarations).find? (·.answersTo name) with
    | some declaration => .ok declaration.identifier
    | none => .error (.unknownEntryPoint name)
  | none =>
    match (topLevel declarations).head? with
    | some declaration => .ok declaration.identifier
    | none => .error .noEntryPoint

/-- The identifier of the node of a schema to start with. -/
def Schema.entryPoint (schema : Schema) (requested : Option String) :
    Except ConfigurationError String := do
  CommandTree.entryPoint (← schema.lower) requested

end CommandTree
