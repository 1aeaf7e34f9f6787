import CommandTree.OrderedMap

/-!
# JSON values

The value that a document denotes, whichever notation it was written in.  Objects list their
members in the order in which the keys first appeared.

* `Json` is the type of values, `Json.Number` that of numbers.
* `Json.member?` looks a member of an object up.
-/

namespace CommandTree

/-- A number: a 64-bit integer as it is, everything else as a decimal
`± significand * 10 ^ exponent`. -/
inductive Json.Number where
  /-- An integer. -/
  | integer (value : Int)
  /-- A decimal that is to be rounded to a binary fraction. -/
  | decimal (negative : Bool) (significand : Nat) (exponent : Int)
  deriving DecidableEq, Repr

/-- A JSON value. -/
inductive Json where
  /-- The absent value. -/
  | null
  /-- A truth value. -/
  | bool (value : Bool)
  /-- A number. -/
  | number (value : Json.Number)
  /-- A text. -/
  | string (value : String)
  /-- A sequence of values. -/
  | array (items : List Json)
  /-- A collection of named values, in order. -/
  | object (members : List (String × Json))
  deriving Inhabited

namespace Json

/-- The member of an object with the given key; other values have no members. -/
def member? (value : Json) (key : String) : Option Json :=
  match value with
  | .object members => Members.get? members key
  | _ => none

/-- The text that a string value holds. -/
def text? : Json → Option String
  | .string text => some text
  | _ => none

/-- An integer as a value. -/
def ofInt (n : Int) : Json :=
  .number (.integer n)

/-- A natural number as a value. -/
def ofNat (n : Nat) : Json :=
  .number (.integer n)

/-- A text that may be absent, as a string or `null`. -/
def ofText? : Option String → Json
  | some text => .string text
  | none => .null

end Json

end CommandTree
