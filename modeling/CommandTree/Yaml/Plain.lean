import CommandTree.Decimal.Binary
import CommandTree.Json.Basic

/-!
# The meaning of plain scalars

A plain scalar may denote nothing, a truth value or a number; otherwise it is a text.  Digits after
a superfluous zero are a text.

* `isNullWord`, `boolWord?`, `integer?` and `decimal?` recognise the four kinds.
* `PlainValue.ofText` decides between them.
-/

namespace CommandTree

namespace Yaml

/-! ### Words -/

/-- Whether a text denotes nothing. -/
def isNullWord (text : String) : Bool :=
  text = "null" || text = "Null" || text = "NULL" || text = "~"

/-- The truth value that a text denotes. -/
def boolWord? (text : String) : Option Bool :=
  if text = "true" || text = "True" || text = "TRUE" then some true
  else if text = "false" || text = "False" || text = "FALSE" then some false
  else none

/-! ### Integers -/

/-- The value of a digit of a base up to sixteen. -/
def digit? (base : Nat) (c : Char) : Option Nat :=
  let value? :=
    if c.isDigit then some (c.toNat - '0'.toNat)
    else if 'a' ≤ c ∧ c ≤ 'f' then some (c.toNat - 'a'.toNat + 10)
    else if 'A' ≤ c ∧ c ≤ 'F' then some (c.toNat - 'A'.toNat + 10)
    else none
  value?.filter (· < base)

/-- The value of at least one digit. -/
def natural? (base : Nat) (digits : List Char) : Option Nat :=
  if digits.isEmpty then none
  else digits.foldlM (fun value c => (digit? base c).map (value * base + ·)) 0

/-- Whether a text consists of a zero and further digits, after a sign at most. -/
def hasLeadingZero (chars : List Char) : Bool :=
  let unsigned := match chars with
    | '+' :: rest | '-' :: rest => rest
    | rest => rest
  match unsigned with
  | '0' :: c :: rest => (c :: rest).all Char.isDigit
  | _ => false

/-- The integer that digits denote: in base 16, 8 or 2 after a letter, in base 10 otherwise. -/
def unsigned? (chars : List Char) : Option Nat :=
  match chars with
  | '0' :: 'x' :: digits => natural? 16 digits
  | '0' :: 'o' :: digits => natural? 8 digits
  | '0' :: 'b' :: digits => natural? 2 digits
  | digits => if hasLeadingZero digits then none else natural? 10 digits

/-- The integer that a text denotes. -/
def integer? (chars : List Char) : Option Int :=
  match chars with
  | '-' :: digits => (unsigned? digits).map fun n => -(n : Int)
  | '+' :: digits => (unsigned? digits).map fun n => (n : Int)
  | digits => (unsigned? digits).map fun n => (n : Int)

/-! ### Decimals -/

/-- Reads the exponent of a decimal, up to the end of the text. -/
def exponent? (chars : List Char) : Option Int :=
  match chars with
  | [] => some 0
  | letter :: rest =>
    if letter = 'e' ∨ letter = 'E' then
      match rest with
      | '+' :: digits => (natural? 10 digits).map fun n => (n : Int)
      | '-' :: digits => (natural? 10 digits).map fun n => -(n : Int)
      | digits => (natural? 10 digits).map fun n => (n : Int)
    else none

/-- The decimal that digits denote, with a point and an exponent at most. -/
def unsignedDecimal? (chars : List Char) : Option (Nat × Int) := do
  let whole := chars.takeWhile Char.isDigit
  let rest := chars.dropWhile Char.isDigit
  let (fraction, rest) := match rest with
    | '.' :: rest => (rest.takeWhile Char.isDigit, rest.dropWhile Char.isDigit)
    | rest => ([], rest)
  let significand ← natural? 10 (whole ++ fraction)
  return (significand, (← exponent? rest) - fraction.length)

/-- Whether a decimal is small enough to be rounded to a finite binary fraction. -/
def isFiniteDecimal (significand : Nat) (exponent : Int) : Bool :=
  if significand = 0 ∨ exponent + (Nat.log2 significand + 1 : Nat) ≤ 0 then true
  else if 400 < exponent then false
  else if exponent < 0 then
    (BinaryFraction.ofRatio? significand (powerOfTen (-exponent).toNat)).isSome
  else (BinaryFraction.ofRatio? (significand * powerOfTen exponent.toNat) 1).isSome

/-- The number that a decimal text denotes, unless it is too large. -/
def finiteDecimal? (chars : List Char) : Option Json.Number := do
  let (negative, digits) := match chars with
    | '-' :: rest => (true, rest)
    | '+' :: rest => (false, rest)
    | rest => (false, rest)
  let (significand, exponent) ← unsignedDecimal? digits
  if isFiniteDecimal significand exponent then some (.decimal negative significand exponent)
  else none

/-- Whether a text is a word for an infinity or for no number. -/
def isSpecialNumber (text : String) : Bool :=
  [".inf", ".Inf", ".INF", "+.inf", "+.Inf", "+.INF", "-.inf", "-.Inf", "-.INF",
    ".nan", ".NaN", ".NAN"].contains text

/-- The value of a text that denotes a decimal.  Infinities and no number have no value. -/
def decimal? (text : String) : Option Json :=
  if isSpecialNumber text then some .null
  else (finiteDecimal? text.toList).map .number

/-! ### All together -/

/-- Whether an integer is one of 64 bits, negative or not. -/
def fitsWord (n : Int) : Bool :=
  -(powerOfTwo 63 : Int) ≤ n && n < powerOfTwo 64

/-- Whether an integer is one of 128 bits, negative or not. -/
def fitsDoubleWord (n : Int) : Bool :=
  -(powerOfTwo 127 : Int) ≤ n && n < powerOfTwo 128

/-- What a plain scalar denotes. -/
inductive PlainValue where
  /-- A value other than a text. -/
  | other (value : Json)
  /-- The text itself. -/
  | text
  /-- An integer of more than 64 bits. -/
  | tooLarge

/-- What an integer denotes, `none` if it has more than 128 bits. -/
def PlainValue.ofInteger? (n : Int) : Option PlainValue :=
  if fitsWord n then some (.other (.ofInt n))
  else if fitsDoubleWord n then some .tooLarge
  else none

/-- What a plain scalar denotes. -/
def PlainValue.ofText (text : String) : PlainValue :=
  if text.isEmpty || isNullWord text then .other .null
  else match boolWord? text with
    | some b => .other (.bool b)
    | none =>
      match (integer? text.toList).bind PlainValue.ofInteger? with
      | some value => value
      | none =>
        if hasLeadingZero text.toList then .text
        else match decimal? text with
          | some value => .other value
          | none => .text

end Yaml

end CommandTree
