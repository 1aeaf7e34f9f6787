import CommandTree.OrderedMap

/-!
# TOML documents

A TOML document is a table of named values.  It is written as assignments below headers; assignments
and headers with several keys make tables inside of tables.  A table must not be defined twice.

* `Toml.Value` is the type of values.
* `Toml.Statement` is one assignment or header, `Toml.Draft.apply` adds it to a document.
-/

namespace CommandTree

namespace Toml

/-- A value. -/
inductive Value where
  /-- A text. -/
  | text (text : String)
  /-- A number, truth value, date or time, as it is written. -/
  | literal (text : String)
  /-- A sequence of values. -/
  | array (items : List Value)
  /-- A table of named values. -/
  | table (members : List (String × Value))

/-- An assignment or a header. -/
inductive Statement where
  /-- A value for a key, which may lead through several tables. -/
  | assign (key : List String) (value : Value)
  /-- The start of a table. -/
  | header (key : List String)
  /-- The start of a further table in an array of tables. -/
  | arrayHeader (key : List String)

/-! ### Documents in the making -/

/-- How a table came about. -/
inductive Origin where
  /-- It has a header. -/
  | header
  /-- A table inside of it has a header. -/
  | implied
  /-- A key leads through it. -/
  | key
  deriving DecidableEq, Repr

/-- A value or table in the making. -/
inductive Draft where
  /-- A value, to which nothing can be added. -/
  | value (content : Value)
  /-- A table. -/
  | table (origin : Origin) (members : List (String × Draft))
  /-- An array of tables, the last one first. -/
  | tables (rows : List (List (String × Draft)))

namespace Draft

/-- Assigns to a key, unless it is taken or leads through something that is no open table. -/
def assign (content : Draft) : List String → Members Draft → Option (Members Draft)
  | [], _ => none
  | [key], members =>
    if (members.get? key).isSome then none else some (members.insert key content)
  | key :: rest, members =>
    match members.get? key with
    | none => (assign content rest []).map fun inner => members.insert key (.table .key inner)
    -- a table with a header of its own is closed to keys from outside
    | some (.table .header _) => none
    | some (.table origin inner) =>
      (assign content rest inner).map fun inner => members.insert key (.table origin inner)
    | some _ => none

/-- Changes the table to which a key leads; tables on the way are made where there are none. -/
def update (change : Members Draft → Option (Members Draft)) :
    List String → Members Draft → Option (Members Draft)
  | [], members => change members
  | key :: rest, members =>
    match members.get? key with
    | none => (update change rest []).map fun inner => members.insert key (.table .implied inner)
    | some (.table origin inner) =>
      (update change rest inner).map fun inner => members.insert key (.table origin inner)
    | some (.tables (last :: before)) =>
      (update change rest last).map fun last => members.insert key (.tables (last :: before))
    | some _ => none

/-- Starts the table with a key. -/
def startTable (key : String) (members : Members Draft) : Option (Members Draft) :=
  match members.get? key with
  | none => some (members.insert key (.table .header []))
  | some (.table .implied inner) => some (members.insert key (.table .header inner))
  | some _ => none

/-- Starts a further table of the array with a key. -/
def startRow (key : String) (members : Members Draft) : Option (Members Draft) :=
  match members.get? key with
  | none => some (members.insert key (.tables [[]]))
  | some (.tables rows) => some (members.insert key (.tables ([] :: rows)))
  | some _ => none

/-- Adds a statement to a document, and returns the key of the table that is open after it. -/
def apply (state : List String × Members Draft) (statement : Statement) :
    Option (List String × Members Draft) :=
  let (place, members) := state
  match statement with
  | .assign key content => do
    return (place, ← update (assign (.value content) key) place members)
  | .header key => do
    return (key, ← update (startTable (← key.getLast?)) key.dropLast members)
  | .arrayHeader key => do
    return (key, ← update (startRow (← key.getLast?)) key.dropLast members)

mutual

/-- The finished value. -/
def finish : Draft → Value
  | .value content => content
  | .table _ members => .table (finishMembers members)
  | .tables rows => .array (finishRows rows).reverse

/-- The finished members of a table. -/
def finishMembers : List (String × Draft) → List (String × Value)
  | [] => []
  | (key, draft) :: rest => (key, finish draft) :: finishMembers rest

/-- The finished tables of an array. -/
def finishRows : List (List (String × Draft)) → List Value
  | [] => []
  | row :: rest => .table (finishMembers row) :: finishRows rest

end

end Draft

/-- The table that statements describe. -/
def assemble (statements : List Statement) : Option (Members Value) := do
  let (_, members) ← statements.foldlM Draft.apply ([], [])
  return Draft.finishMembers members

end Toml

end CommandTree
