import CommandTree.Click.Program
import CommandTree.Proofs.Declaration.Forest

/-!
# What a program does not depend on

A schema says who may invoke a node, and it may list arguments, which no program will have.  Neither
finds its way into a program, and neither can keep a schema from becoming one: what is said about
them is never looked at, be it right or wrong.

* `Entry.declare_stripped` : the declaration of a node is that of the node without them.
* `Schema.lower_mapEntries` : a change of nodes that keeps the declaration of each node on its own
  keeps the declarations of the schema, identifiers and parents included.
* `compilesAlike_of_stripped_eq` : schemas that differ in nothing else lead to the same program, or
  fail with the same error.
-/

namespace CommandTree

/-! ### One node -/

/-- A node without its permission and its arguments. -/
def Entry.stripped (entry : Entry) : Entry :=
  { entry with permission := none, params := entry.params.filter Param.isOption }

theorem Entry.literals_stripped (entry : Entry) : entry.stripped.literals = entry.literals := rfl

theorem Entry.baseIdentifier_stripped (entry : Entry) :
    entry.stripped.baseIdentifier = entry.baseIdentifier := rfl

theorem Entry.options_stripped (entry : Entry) :
    entry.stripped.params.filter Param.isOption = entry.params.filter Param.isOption := by
  rw [stripped, List.filter_filter]
  simp only [Bool.and_self]

/-- **The declaration of a node, and what is wrong with it, is that of the node without its
permission and its arguments.** -/
theorem Entry.declare_stripped (entry : Entry) (kind : NodeKind) (parent : Parent)
    (taken : List String) :
    entry.stripped.declare kind parent taken = entry.declare kind parent taken := by
  have hname : entry.stripped.name = entry.name := rfl
  rw [declare, declare, entry.literals_stripped, entry.baseIdentifier_stripped,
    entry.options_stripped, hname]

/-! ### All nodes -/

/-- A change of nodes keeps their declarations, wherever they stand and whatever identifiers are
taken. -/
def KeepsDeclarations (f : Entry → Entry) : Prop :=
  ∀ entry kind parent taken, (f entry).declare kind parent taken = entry.declare kind parent taken

section KeepsDeclarations

variable {f : Entry → Entry}

/-- What is kept for every node is kept for a forest: the identifiers that are taken and the parents
come from the declarations alone. -/
theorem KeepsDeclarations.declare_map (keeps : KeepsDeclarations f)
    (nodes : Forest (NodeKind × Entry)) (parent : Parent) (taken : List String) :
    (nodes.map (Prod.map id f)).declare parent taken = nodes.declare parent taken := by
  induction nodes generalizing parent taken with
  | nil => rfl
  | cons label below rest ih ih' =>
    obtain ⟨kind, entry⟩ := label
    simp only [Forest.map, Prod.map, id, Forest.declare, keeps entry kind parent taken, ih, ih']

theorem Schema.lower_mapEntries (keeps : KeepsDeclarations f) (schema : Schema) :
    (schema.mapEntries f).lower = schema.lower := by
  rw [lower_eq, lower_eq, forest_mapEntries, keeps.declare_map]

end KeepsDeclarations

/-! ### Schemas -/

namespace Schema

/-- A schema without permissions and arguments. -/
def stripped (schema : Schema) : Schema :=
  schema.mapEntries Entry.stripped

theorem lower_stripped (schema : Schema) : schema.stripped.lower = schema.lower :=
  lower_mapEntries Entry.declare_stripped schema

/-- Two schemas lead to the same declarations, the same text of them, the same node to start with,
and the same program, or fail with the same error, whatever the target and the requested node. -/
structure CompilesAlike (first second : Schema) : Prop where
  /-- The declarations are the same. -/
  lower : first.lower = second.lower
  /-- The texts of the declarations are the same. -/
  compile : ∀ target, first.compile target = second.compile target
  /-- The same node answers to a request. -/
  entryPoint : ∀ requested, first.entryPoint requested = second.entryPoint requested
  /-- The programs are the same. -/
  compileProgram : ∀ target requested,
    first.compileProgram target requested = second.compileProgram target requested

/-- Everything is made of the declarations. -/
theorem CompilesAlike.of_lower_eq {first second : Schema} (h : first.lower = second.lower) :
    CompilesAlike first second where
  lower := h
  compile target := by rw [Schema.compile, Schema.compile, h]
  entryPoint requested := by rw [Schema.entryPoint, Schema.entryPoint, h]
  compileProgram target requested := by rw [Schema.compileProgram, Schema.compileProgram, h]

end Schema

/-- **Permissions and arguments do not influence a program**: schemas that are equal without them
compile alike. -/
theorem compilesAlike_of_stripped_eq {first second : Schema} (h : first.stripped = second.stripped) :
    Schema.CompilesAlike first second := by
  refine .of_lower_eq ?_
  calc first.lower
    _ = first.stripped.lower := first.lower_stripped.symm
    _ = second.stripped.lower := by rw [h]
    _ = second.lower := second.lower_stripped

/-- A group with a command that has one option, of the given type. -/
def openTools (type : String) : Schema :=
  ⟨[.group ⟨⟨"tools", "None", none, "False", []⟩, [],
      [⟨"run", "None", none, "False", [⟨.option, .ofList [("name", "v"), ("type", type)]⟩]⟩]⟩]⟩

/-- The same tools with permissions, and with arguments that have no name, or a type that is
unknown, before and after the option. -/
def guardedTools (type : String) : Schema :=
  ⟨[.group ⟨⟨"tools", "None", some "admin", "False", [⟨.argument, .ofList []⟩]⟩, [],
      [⟨"run", "None", some "", "False",
        [⟨.argument, .ofList [("name", "None"), ("type", "FLOAT")]⟩,
          ⟨.option, .ofList [("name", "v"), ("type", type)]⟩,
          ⟨.argument, .ofList [("required", "perhaps")]⟩]⟩]⟩]⟩

/-- The tools compile alike, whether the option has a type or is the first thing that is wrong. -/
theorem compilesAlike_of_stripped_eq_guardedTools :
    ((guardedTools "BOOL").stripped = (openTools "BOOL").stripped ∧
      (guardedTools "BOOL").CompilesAlike (openTools "BOOL") ∧
      (errorOf? (guardedTools "BOOL").lower).isNone) ∧
    (guardedTools "WORD").stripped = (openTools "WORD").stripped ∧
      (guardedTools "WORD").CompilesAlike (openTools "WORD") ∧
      (guardedTools "WORD").lower = .error (.unsupportedKey "WORD") := by
  have htyped : (guardedTools "BOOL").stripped = (openTools "BOOL").stripped := by decide +kernel
  have hfaulty : (guardedTools "WORD").stripped = (openTools "WORD").stripped := by decide +kernel
  exact ⟨⟨htyped, compilesAlike_of_stripped_eq htyped, by decide +kernel⟩,
    hfaulty, compilesAlike_of_stripped_eq hfaulty, by decide +kernel⟩

end CommandTree
