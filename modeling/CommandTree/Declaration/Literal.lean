import CommandTree.OrderedMap
import CommandTree.Schema.Basic

/-!
# Literals

A document writes every attribute as a text.  The type of an attribute says how the text is to be
understood: as a text, with or without quotes around it, as a truth word, or as an integer.  The
word `None` stands for an absent value whatever the type.

* `ValueType.lookup` is the type that a type name or an attribute name stands for.
* `Literal.ofText` is the meaning of a text under a key.
* `Interpreted.ofAttributes` is the meaning of all attributes of a parameter.
* `ConfigurationError` is what can be wrong with them.
-/

namespace CommandTree

/-! ### Errors -/

/-- Why a schema cannot be turned into a program. -/
inductive ConfigurationError where
  /-- A key or type name has no type. -/
  | unsupportedKey (key : String)
  /-- A text is not a truth word. -/
  | invalidTruth (key value : String)
  /-- A text is not an integer of 64 bits. -/
  | invalidInteger (key value : String)
  /-- The name of an option of a node leaves nothing for a flag. -/
  | optionNameTooShort (node : String)
  /-- An option of a node has no name. -/
  | missingOptionName (node : String)
  /-- There is no top-level node to start with. -/
  | noEntryPoint
  /-- The node to start with is not at the top level. -/
  | unknownEntryPoint (name : String)
  deriving DecidableEq, Repr

/-- The error in words. -/
def ConfigurationError.message : ConfigurationError → String
  | unsupportedKey key => "unsupported data type '" ++ key ++ "'"
  | invalidTruth key value =>
    "invalid boolean '" ++ value ++ "' for '" ++ key ++ "' (expected \"True\" or \"False\")"
  | invalidInteger key value => "invalid integer '" ++ value ++ "' for '" ++ key ++ "'"
  | optionNameTooShort node => "option of '" ++ node ++ "' has a name too short to form a flag"
  | missingOptionName node => "option of '" ++ node ++ "' has no name"
  | noEntryPoint => "schema has no top-level node to use as entry point"
  | unknownEntryPoint name => "entry point '" ++ name ++ "' is not a top-level node"

/-! ### Types and literals -/

/-- The types of attributes. -/
inductive ValueType where
  /-- An integer. -/
  | integer
  /-- A text. -/
  | text
  /-- A truth value. -/
  | truth
  /-- No value at all. -/
  | absent
  deriving DecidableEq, Repr

/-- The type that a type name or an attribute name stands for. -/
def ValueType.lookup (key : String) : Option ValueType :=
  if key = "INT" then some integer
  else if key = "STRING" ∨ key = "str" then some text
  else if key = "None" then some absent
  else if key = "boolean" ∨ key = "BOOL" then some truth
  else if key = "name" ∨ key = "help" ∨ key = "prompt" then some text
  else if key = "required" ∨ key = "hidden" then some truth
  else none

/-- The meaning of an attribute. -/
inductive Literal where
  /-- A text. -/
  | text (value : String)
  /-- A truth value. -/
  | truth (value : Bool)
  /-- An integer. -/
  | integer (value : Int)
  /-- No value. -/
  | absent
  deriving DecidableEq, Repr

namespace Literal

/-- The text of a literal that is one. -/
def text? : Literal → Option String
  | text value => some value
  | _ => none

/-! ### The meaning of a text -/

/-- Drops one pair of double quotes around a text, if it has one. -/
def unquote (raw : String) : String :=
  match raw.toList with
  | '"' :: rest =>
    match rest.reverse with
    | '"' :: inner => String.ofList inner.reverse
    | _ => raw
  | _ => raw

/-- The value of decimal digits, of which there must be one at least. -/
def natural? (digits : List Char) : Option Nat :=
  if digits.isEmpty || !digits.all Char.isDigit then none
  else some (digits.foldl (fun value digit => 10 * value + (digit.toNat - '0'.toNat)) 0)

/-- The integer that a text spells, with a sign or without, if it has at most 64 bits. -/
def integer64? (raw : String) : Option Int := do
  let value ← match raw.toList with
    | '-' :: digits => (natural? digits).map fun n => -(n : Int)
    | '+' :: digits => (natural? digits).map fun n => (n : Int)
    | digits => (natural? digits).map fun n => (n : Int)
  if -9223372036854775808 ≤ value ∧ value ≤ 9223372036854775807 then some value else none

/-- The meaning of a text of a given type; `key` is named in errors. -/
def ofTyped (type : ValueType) (key raw : String) : Except ConfigurationError Literal :=
  match type with
  | .text => .ok (text (unquote raw))
  | .truth =>
    if raw = "True" then .ok (truth true)
    else if raw = "False" then .ok (truth false)
    else .error (.invalidTruth key raw)
  | .integer =>
    match integer64? raw with
    | some value => .ok (integer value)
    | none => .error (.invalidInteger key raw)
  | .absent => .ok absent

/-- The meaning of a text under a key, which is the name of a type or of an attribute. -/
def ofText (key raw : String) : Except ConfigurationError Literal :=
  -- the word for an absent value wins over every type
  if raw = absentWord then .ok absent
  else match ValueType.lookup key with
    | some type => ofTyped type key raw
    | none => .error (.unsupportedKey key)

end Literal

/-! ### The attributes of a parameter -/

/-- The meaning of the attributes of a parameter. -/
structure Interpreted where
  /-- All attributes but the type, in order. -/
  attributes : OrderedMap Literal
  /-- The type that the attributes declare. -/
  valueType : Option ValueType
  deriving DecidableEq

/-- The key of the attribute that declares a type. -/
def typeKey : String := "type"

/-- The key of the attribute that takes the declared type. -/
def defaultKey : String := "default"

/-- The meaning of one attribute.  The declared type is that of the default value; the other
attributes have the type of their name. -/
def interpretAttribute (valueType : Option ValueType) (key raw : String) :
    Except ConfigurationError Literal :=
  match valueType with
  | some type =>
    if key = defaultKey then
      if raw = absentWord then .ok .absent else Literal.ofTyped type key raw
    else Literal.ofText key raw
  | none => Literal.ofText key raw

/-- The type that some attributes declare, if they do. -/
def declaredType (attributes : OrderedMap String) : Except ConfigurationError (Option ValueType) :=
  match attributes.get? typeKey with
  | none => .ok none
  | some name =>
    match ValueType.lookup name with
    | some type => .ok (some type)
    | none => .error (.unsupportedKey name)

/-- The meaning of all attributes: first of the type, then of the others in order. -/
def Interpreted.ofAttributes (attributes : OrderedMap String) :
    Except ConfigurationError Interpreted := do
  let valueType ← declaredType attributes
  let members ← (attributes.erase typeKey).toList.mapM fun (key, raw) => do
    return (key, ← interpretAttribute valueType key raw)
  return ⟨.ofList members, valueType⟩

end CommandTree
