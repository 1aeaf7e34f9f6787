import CommandTree.Decimal.Binary
import CommandTree.Json.Basic
import CommandTree.Json.Failure

/-!
# Numbers in a JSON text

A number is an integer if it has neither fraction nor exponent and fits into 64 bits.  Everything
else is a decimal, of which at most the leading digits that fit into 64 bits are kept; a decimal
that is too large for a binary fraction is refused.

* `Json.readNumber` reads a number whose sign has been read.
-/

namespace CommandTree

namespace Json

/-- The number of bytes that a list of characters takes. -/
def byteCount (chars : List Char) : Nat :=
  chars.foldr (fun c count => c.utf8Size + count) 0

/-- A failure directly before the remaining characters. -/
def failBefore {α : Type} (cause : Cause) (rest : List Char) : Except Failure α :=
  .error ⟨cause, byteCount rest⟩

/-- A failure at the next byte, which counts as consumed. -/
def failAt {α : Type} (cause : Cause) (rest : List Char) : Except Failure α :=
  .error ⟨cause, byteCount rest - 1⟩

/-- The value of a decimal digit. -/
def digitValue (c : Char) : Nat :=
  c.toNat - '0'.toNat

/-- The greatest number of 64 bits. -/
def greatestWord : Nat := 18446744073709551615

/-- A number whose digits have been read in part. -/
structure Digits where
  /-- The digits kept so far, as a number of at most 64 bits. -/
  significand : Nat
  /-- How many digits were appended. -/
  kept : Nat
  /-- How many digits came after the first that did not fit. -/
  dropped : Nat
  /-- What follows the digits. -/
  rest : List Char

/-- Skips digits, and counts them. -/
def dropDigits (dropped : Nat) : List Char → Nat × List Char
  | c :: rest => if c.isDigit then dropDigits (dropped + 1) rest else (dropped, c :: rest)
  | [] => (dropped, [])

/-- Appends digits to a significand until one does not fit into 64 bits; it and all further digits
are dropped. -/
def appendDigits (significand kept : Nat) : List Char → Digits
  | [] => ⟨significand, kept, 0, []⟩
  | c :: rest =>
    if c.isDigit then
      let next := significand * 10 + digitValue c
      if next ≤ greatestWord then appendDigits next (kept + 1) rest
      else
        let (dropped, rest) := dropDigits 1 rest
        ⟨significand, kept, dropped, rest⟩
    else ⟨significand, kept, 0, c :: rest⟩

/-- The decimal that has been read, provided that it is finite. -/
def finishDecimal (negative : Bool) (significand : Nat) (exponent : Int) (rest : List Char) :
    Except Failure (Number × List Char) :=
  match BinaryFraction.ofDecimal? significand exponent with
  | some _ => .ok (.decimal negative significand exponent, rest)
  | none => failBefore .numberOutOfRange rest

/-- The greatest exponent that is read as a number. -/
def greatestExponent : Nat := 2147483647

/-- Reads the further digits of an exponent.  A number with a greater exponent is out of range if
the exponent is positive and the number is not zero, and zero otherwise. -/
def readExponentDigits (negative : Bool) (significand : Nat) (start : Int) (positive : Bool)
    (exponent : Nat) : List Char → Except Failure (Number × List Char)
  | c :: rest =>
    if c.isDigit then
      let next := exponent * 10 + digitValue c
      if next ≤ greatestExponent then
        readExponentDigits negative significand start positive next rest
      else if significand ≠ 0 && positive then failBefore .numberOutOfRange rest
      else .ok (.decimal negative 0 0, (dropDigits 0 rest).2)
    else
      finishDecimal negative significand (if positive then start + exponent else start - exponent)
        (c :: rest)
  | [] =>
    finishDecimal negative significand (if positive then start + exponent else start - exponent) []

/-- Reads an exponent, of which the letter has been read. -/
def readExponent (negative : Bool) (significand : Nat) (start : Int) (text : List Char) :
    Except Failure (Number × List Char) :=
  let (positive, digits) := match text with
    | '+' :: rest => (true, rest)
    | '-' :: rest => (false, rest)
    | rest => (true, rest)
  match digits with
  | [] => failBefore .endInValue []
  | c :: rest =>
    if c.isDigit then readExponentDigits negative significand start positive (digitValue c) rest
    else failAt .invalidNumber digits

/-- Reads what follows the digits before and after the point. -/
def readAfterDigits (negative : Bool) (significand : Nat) (exponent : Int) (text : List Char) :
    Except Failure (Number × List Char) :=
  match text with
  | 'e' :: rest | 'E' :: rest => readExponent negative significand exponent rest
  | rest => finishDecimal negative significand exponent rest

/-- Reads what follows the digits before the point; `exponent` of them were dropped. -/
def readAfterInteger (negative : Bool) (significand exponent : Nat) (text : List Char) :
    Except Failure (Number × List Char) :=
  match text with
  | '.' :: rest =>
    let digits := appendDigits significand 0 rest
    if digits.kept = 0 ∧ digits.dropped = 0 then
      if rest.isEmpty then failBefore .endInValue [] else failAt .invalidNumber rest
    else readAfterDigits negative digits.significand ((exponent : Int) - digits.kept) digits.rest
  | 'e' :: rest | 'E' :: rest => readExponent negative significand exponent rest
  | rest =>
    if exponent ≠ 0 then finishDecimal negative significand exponent rest
    else if negative then
      if 0 < significand ∧ significand ≤ powerOfTwo 63 then
        .ok (.integer (-(significand : Int)), rest)
      else .ok (.decimal true significand 0, rest)
    else .ok (.integer significand, rest)

/-- Reads a number whose sign has been read. -/
def readNumber (negative : Bool) (text : List Char) : Except Failure (Number × List Char) :=
  match text with
  | [] => failBefore .endInValue []
  | c :: rest =>
    if c = '0' then
      match rest with
      | d :: _ =>
        if d.isDigit then failAt .invalidNumber rest
        else readAfterInteger negative 0 0 rest
      | [] => readAfterInteger negative 0 0 rest
    else if c.isDigit then
      let digits := appendDigits (digitValue c) 1 rest
      readAfterInteger negative digits.significand digits.dropped digits.rest
    else failAt .invalidNumber text

end Json

end CommandTree
