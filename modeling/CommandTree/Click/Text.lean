import CommandTree.Declaration.Basic
import CommandTree.SourceText

/-!
# Declarations as Click programs

Click is a library for Python in which a command is a function with decorators: one that attaches
it to its parent, one for each option, and one that passes the context on.  The function puts the
values of its options into the context.

* `Click.literal` is a literal as a Python expression, `Click.quote` a text as a string literal.
* `Click.steps` are the lines of a declaration.
-/

namespace CommandTree

namespace Click

/-! ### Expressions -/

/-- A character inside a string literal. -/
def quotedChar (c : Char) : List Char :=
  match c with
  | '"' => ['\\', '"']
  | '\\' => ['\\', '\\']
  | '\n' => ['\\', 'n']
  | '\t' => ['\\', 't']
  | c => [c]

/-- A text as a string literal. -/
def quote (text : String) : String :=
  String.ofList ('"' :: (text.toList.flatMap quotedChar ++ ['"']))

/-- A literal as an expression. -/
def literal : Literal → String
  | .text value => quote value
  | .truth true => "True"
  | .truth false => "False"
  | .integer value => toString value
  | .absent => "None"

/-- The expression for a type, if there is one. -/
def valueType? : ValueType → Option String
  | .text => some "click.STRING"
  | .truth => some "click.BOOL"
  | .integer => some "click.INT"
  | .absent => none

/-! ### Declarations -/

/-- The object to which top-level declarations are attached. -/
def root : String := "click"

/-- The object to which a declaration is attached. -/
def parent : Parent → String
  | .root => root
  | .node identifier => identifier

/-- Attributes as keyword arguments. -/
def keywords (attributes : OrderedMap Literal) : List String :=
  attributes.toList.map fun (key, value) => key ++ "=" ++ literal value

/-- Arguments of a call. -/
def arguments (items : List String) : String :=
  ", ".intercalate items

/-- The decorator that attaches a declaration to its parent. -/
def decorator (declaration : Declaration) : String :=
  "@" ++ parent declaration.parent ++ "." ++ declaration.kind.name ++ "(" ++
    arguments (keywords declaration.attributes) ++ ")"

/-- The decorator of an option. -/
def option (option : OptionDeclaration) : String :=
  let type := match option.valueType.bind valueType? with
    | some type => ["type=" ++ type]
    | none => []
  "@click.option(" ++
    arguments (quote option.flag :: quote option.argument :: keywords option.attributes ++ type) ++
    ")"

/-- The head of the function. -/
def functionHead (declaration : Declaration) : String :=
  "def " ++ declaration.identifier ++ "(" ++
    arguments ("ctx" :: declaration.options.map OptionDeclaration.argument) ++ "):"

/-- The call that puts the values of options into the context. -/
def contextCall (options : List OptionDeclaration) : String :=
  match options with
  | [] => "set_context_obj(ctx)"
  | options =>
    -- the values go into the context under the names of the parameters
    let entries := options.map fun option => quote option.argument ++ ": " ++ option.argument
    "set_context_obj(ctx, \x7b" ++ arguments entries ++ "\x7d)"

/-- The lines of a declaration. -/
def steps (declaration : Declaration) : List SourceStep :=
  [.line (decorator declaration),
   .each (declaration.options.map option),
   .line "@click.pass_context",
   .block (functionHead declaration) [.line (contextCall declaration.options)],
   .blank,
   .blank]

/-- The text of a declaration. -/
def declaration (declaration : Declaration) : String :=
  (SourceText.fourSpaces.writeAll (steps declaration)).text

end Click

end CommandTree
