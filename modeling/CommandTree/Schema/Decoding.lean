import CommandTree.Decimal.Shortest
import CommandTree.Schema.Basic
import CommandTree.Schema.Encoding
import CommandTree.Text.Printable

/-!
# Reading nodes from values

A node is read from an object, whose members are taken in the order in which they stand; members
that the node does not have are ignored.  Groups and commands may also be given as arrays of their
fields.  A permission of `null` is no permission.  A parameter takes every member but its kind as
an attribute.

* `Group.ofJson`, `Entry.ofJson` and `Param.ofJson` read one node each.
* `DecodeError` is what they find wrong.
-/

namespace CommandTree

/-! ### What can be wrong -/

/-- Why a value is not a node. -/
inductive DecodeError where
  /-- A value of another type was expected. -/
  | invalidType (found : Json) (expected : String)
  /-- An object was expected to have one member. -/
  | invalidValue (expected : String)
  /-- An array is too short or too long. -/
  | invalidLength (length : Nat) (expected : String)
  /-- A word is not one of the kinds of parameters. -/
  | unknownKind (word : String)
  /-- A member is missing. -/
  | missingField (field : String)

/-- The text of a decimal: whole numbers below ten million billion and fractions above a hundred
thousandth are written in full, all others with an exponent. -/
def BinaryFraction.text (x : BinaryFraction) : String :=
  if x.mantissa = 0 then "0.0"
  else
    let (digits, point) := x.shortest
    let digits := (digits.reverse.dropWhile (· == '0')).reverse
    let count : Int := digits.length
    let mantissa := match digits with
      | first :: second :: rest => first :: '.' :: second :: rest
      | short => short
    String.ofList <|
      if count ≤ point ∧ point ≤ 16 then
        digits ++ List.replicate (point - count).toNat '0' ++ ['.', '0']
      else if 0 < point ∧ point ≤ 16 then
        digits.take point.toNat ++ '.' :: digits.drop point.toNat
      else if -5 < point ∧ point ≤ 0 then
        ['0', '.'] ++ List.replicate (-point).toNat '0' ++ digits
      else mantissa ++ 'e' :: (toString (point - 1)).toList

/-- What a value is, in words. -/
def Json.description : Json → String
  | .null => "null"
  | .bool value => "boolean `" ++ toString value ++ "`"
  | .number (.integer value) => "integer `" ++ toString value ++ "`"
  | .number (.decimal negative significand exponent) =>
    let text := match BinaryFraction.ofDecimal? significand exponent with
      | some x => x.text
      | none => "inf"
    "floating point `" ++ (if negative then "-" else "") ++ text ++ "`"
  | .string text => "string " ++ quoteForMessage text
  | .array _ => "sequence"
  | .object _ => "map"

/-- The error in words. -/
def DecodeError.message : DecodeError → String
  | invalidType found expected => "invalid type: " ++ found.description ++ ", expected " ++ expected
  | invalidValue expected => "invalid value: map, expected " ++ expected
  | invalidLength length expected =>
    "invalid length " ++ toString length ++ ", expected " ++ expected
  | unknownKind word => "unknown variant `" ++ word ++ "`, expected `option` or `argument`"
  | missingField field => "missing field `" ++ field ++ "`"

/-! ### Simple values -/

/-- Reads a string. -/
def decodeString : Json → Except DecodeError String
  | .string text => .ok text
  | other => .error (.invalidType other "a string")

/-- Reads a string that may be absent. -/
def decodeString? : Json → Except DecodeError (Option String)
  | .null => .ok none
  | other => (decodeString other).map some

/-- Reads the kind of a parameter: a word, or an object with that word as its only key. -/
def ParamKind.ofJson (value : Json) : Except DecodeError ParamKind :=
  match value with
  | .string word => named word
  | .object [(word, content)] => do
    let kind ← named word
    match content with
    | .null => return kind
    | other => .error (.invalidType other "unit")
  | .object _ => .error (.invalidValue "map with a single key")
  | other => .error (.invalidType other "string or map")
where
  /-- The kind with the given name. -/
  named (word : String) : Except DecodeError ParamKind :=
    match ParamKind.ofName? word with
    | some kind => .ok kind
    | none => .error (.unknownKind word)

/-! ### Parameters -/

/-- Reads a parameter: its kind first, then every other member as an attribute. -/
def Param.ofJson (value : Json) : Except DecodeError Param :=
  match value with
  | .object members => do
    let kind ← match Members.get? members paramKindKey with
      | some kind => ParamKind.ofJson kind
      | none => .error (.missingField paramKindKey)
    let attributes ← (Members.erase paramKindKey members).mapM fun (key, value) => do
      return (key, ← decodeString value)
    return ⟨kind, .ofList attributes⟩
  | other => .error (.invalidType other "struct Param")

/-- Reads an array of parameters. -/
def Param.ofJsonList : Json → Except DecodeError (List Param)
  | .array items => items.mapM Param.ofJson
  | other => .error (.invalidType other "a sequence")

/-! ### Nodes in the making -/

/-- The fields of a node that have been read so far. -/
structure NodeDraft where
  /-- The name. -/
  name : Option String := none
  /-- The help text. -/
  help : Option String := none
  /-- The permission, once it has been read. -/
  permission : Option String := none
  /-- Whether the node is hidden, as a truth word. -/
  hidden : Option String := none
  /-- The groups directly below. -/
  groups : Option (List Group) := none
  /-- The commands directly below. -/
  commands : Option (List Entry) := none
  /-- The parameters. -/
  params : Option (List Param) := none

namespace NodeDraft

/-- A field that must have been read. -/
def required {α : Type} (field : String) (value : Option α) : Except DecodeError α :=
  match value with
  | some value => .ok value
  | none => .error (.missingField field)

/-- Reads a field that commands have as well; other fields are left alone. -/
def readEntryField (draft : NodeDraft) (field : String) (value : Json) :
    Except DecodeError NodeDraft :=
  match field with
  | "name" => return { draft with name := some (← decodeString value) }
  | "help" => return { draft with help := some (← decodeString value) }
  | "permission" => return { draft with permission := ← decodeString? value }
  | "hidden" => return { draft with hidden := some (← decodeString value) }
  | "params" => return { draft with params := some (← Param.ofJsonList value) }
  | _ => return draft

/-- The command whose fields have been read. -/
def toEntry (draft : NodeDraft) : Except DecodeError Entry := do
  return {
    name := ← required "name" draft.name
    help := ← required "help" draft.help
    permission := draft.permission
    hidden := ← required "hidden" draft.hidden
    params := ← required "params" draft.params }

/-- The group whose fields have been read. -/
def toGroup (draft : NodeDraft) : Except DecodeError Group := do
  let name ← required "name" draft.name
  let help ← required "help" draft.help
  let hidden ← required "hidden" draft.hidden
  let groups ← required "groups" draft.groups
  let commands ← required "commands" draft.commands
  let params ← required "params" draft.params
  return ⟨⟨name, help, draft.permission, hidden, params⟩, groups, commands⟩

end NodeDraft

/-- The fields of a group in an array. -/
def groupArrayFields : List String :=
  ["name", "help", "permission", "hidden", "groups", "commands", "params"]

/-- The fields of a command in an array. -/
def commandArrayFields : List String := ["name", "help", "permission", "hidden", "params"]

/-- Checks the number of items of an array of fields.  Only the permission may be left out, and
only together with everything after it. -/
def checkArrayLength (fields : List String) (kind : String) (length : Nat) :
    Except DecodeError Unit :=
  -- the permission has index 2 and may be missing, so the field after it is the missing one
  let missing := if length = 2 then 3 else length
  if fields.length < length then .error (.invalidLength length "fewer elements in array")
  else if missing < fields.length then
    .error (.invalidLength missing
      ("struct " ++ kind ++ " with " ++ toString fields.length ++ " elements"))
  else .ok ()

/-! ### Commands -/

/-- Reads the members of a command. -/
def NodeDraft.readEntryMembers (draft : NodeDraft) (members : Members Json) :
    Except DecodeError NodeDraft :=
  members.foldlM (fun draft (field, value) => draft.readEntryField field value) draft

/-- Reads a command. -/
def Entry.ofJson (value : Json) : Except DecodeError Entry :=
  match value with
  | .object members => do (← NodeDraft.readEntryMembers {} members).toEntry
  | .array items => do
    let draft ← NodeDraft.readEntryMembers {} (commandArrayFields.zip items)
    checkArrayLength commandArrayFields "Command" items.length
    draft.toEntry
  | other => .error (.invalidType other "struct Command")

/-- Reads an array of commands. -/
def Entry.ofJsonList : Json → Except DecodeError (List Entry)
  | .array items => items.mapM Entry.ofJson
  | other => .error (.invalidType other "a sequence")

/-! ### Groups -/

mutual

/-- Reads a group. -/
def Group.ofJson : Json → Except DecodeError Group
  | .object members => do (← Group.readMembers {} members).toGroup
  | .array items => do
    let draft ← Group.readItems {} groupArrayFields items
    checkArrayLength groupArrayFields "Group" items.length
    draft.toGroup
  | other => .error (.invalidType other "struct Group")

/-- Reads one field of a group. -/
def Group.readField (draft : NodeDraft) (field : String) (value : Json) :
    Except DecodeError NodeDraft :=
  match field with
  | "groups" => return { draft with groups := some (← Group.ofJsonList value) }
  | "commands" => return { draft with commands := some (← Entry.ofJsonList value) }
  | field => draft.readEntryField field value

/-- Reads the members of a group. -/
def Group.readMembers (draft : NodeDraft) : List (String × Json) → Except DecodeError NodeDraft
  | [] => .ok draft
  | (field, value) :: rest => do Group.readMembers (← Group.readField draft field value) rest

/-- Reads the fields of a group from an array, as far as it goes. -/
def Group.readItems (draft : NodeDraft) (fields : List String) :
    List Json → Except DecodeError NodeDraft
  | [] => .ok draft
  | value :: rest =>
    match fields with
    | [] => .ok draft
    | field :: fields => do Group.readItems (← Group.readField draft field value) fields rest

/-- Reads an array of groups. -/
def Group.ofJsonList : Json → Except DecodeError (List Group)
  | .array items => Group.ofItems items
  | other => .error (.invalidType other "a sequence")

/-- Reads groups one after the other. -/
def Group.ofItems : List Json → Except DecodeError (List Group)
  | [] => .ok []
  | item :: rest => do return (← Group.ofJson item) :: (← Group.ofItems rest)

end

end CommandTree
