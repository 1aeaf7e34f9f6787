/-!
# Numbers, truth values, dates and times in TOML

Values that are not texts are only recognised here, as nothing asks for what they mean.

* `Toml.isLiteral` recognises them.
-/

namespace CommandTree

namespace Toml

/-! ### Numbers -/

/-- Whether some characters are digits, which may be separated by single underscores. -/
def isDigits (isDigit : Char → Bool) : List Char → Bool
  | [] => false
  | [c] => isDigit c
  | c :: '_' :: rest => isDigit c && isDigits isDigit rest
  | c :: rest => isDigit c && isDigits isDigit rest

/-- Whether a character is a hexadecimal digit. -/
def isHexDigit (c : Char) : Bool :=
  c.isDigit || ('a' ≤ c && c ≤ 'f') || ('A' ≤ c && c ≤ 'F')

/-- Whether some characters are a whole number without superfluous zeros. -/
def isWhole (chars : List Char) : Bool :=
  isDigits Char.isDigit chars && (chars.head? != some '0' || chars.length == 1)

/-- The characters after a sign, if there is one. -/
def unsigned : List Char → List Char
  | '+' :: rest | '-' :: rest => rest
  | rest => rest

/-- Whether some characters are an exponent, or nothing. -/
def isExponent : List Char → Bool
  | [] => true
  | c :: rest => (c == 'e' || c == 'E') && isDigits Char.isDigit (unsigned rest)

/-- Whether some characters are a number. -/
def isNumber (chars : List Char) : Bool :=
  match chars with
  | '0' :: 'x' :: digits => isDigits isHexDigit digits
  | '0' :: 'o' :: digits => isDigits (fun c => '0' ≤ c && c ≤ '7') digits
  | '0' :: 'b' :: digits => isDigits (fun c => c == '0' || c == '1') digits
  | chars =>
    let chars := unsigned chars
    let isDigitOrGap (c : Char) := c.isDigit || c == '_'
    let whole := chars.takeWhile isDigitOrGap
    chars == "inf".toList || chars == "nan".toList ||
      (isWhole whole &&
        match chars.dropWhile isDigitOrGap with
        | '.' :: rest =>
          isDigits Char.isDigit (rest.takeWhile isDigitOrGap) &&
            isExponent (rest.dropWhile isDigitOrGap)
        | rest => isExponent rest)

/-! ### Dates and times -/

/-- The number of the given count of digits at the start of some characters, and the rest. -/
def digits? (count : Nat) (chars : List Char) : Option (Nat × List Char) :=
  let digits := chars.take count
  if digits.length = count ∧ digits.all Char.isDigit then
    some (digits.foldl (fun n c => 10 * n + (c.toNat - '0'.toNat)) 0, chars.drop count)
  else none

/-- Drops a character from the start of some characters. -/
def expect? (c : Char) : List Char → Option (List Char)
  | next :: rest => if next = c then some rest else none
  | [] => none

/-- The number of days of a month. -/
def monthLength (year month : Nat) : Nat :=
  if month = 2 then if year % 4 = 0 ∧ (year % 100 ≠ 0 ∨ year % 400 = 0) then 29 else 28
  else if month ∈ [4, 6, 9, 11] then 30
  else 31

/-- What follows a date at the start of some characters. -/
def afterDate? (chars : List Char) : Option (List Char) := do
  let (year, rest) ← digits? 4 chars
  let (month, rest) ← digits? 2 (← expect? '-' rest)
  let (day, rest) ← digits? 2 (← expect? '-' rest)
  if 1 ≤ month ∧ month ≤ 12 ∧ 1 ≤ day ∧ day ≤ monthLength year month then some rest else none

/-- What follows a time at the start of some characters. -/
def afterTime? (chars : List Char) : Option (List Char) := do
  let (hour, rest) ← digits? 2 chars
  let (minute, rest) ← digits? 2 (← expect? ':' rest)
  let (second, rest) ← digits? 2 (← expect? ':' rest)
  if ¬(hour ≤ 23 ∧ minute ≤ 59 ∧ second ≤ 60) then none
  match rest with
  | '.' :: fraction =>
    if (fraction.head?.any Char.isDigit) then some (fraction.dropWhile Char.isDigit) else none
  | rest => some rest

/-- Whether some characters are the distance from universal time, or nothing. -/
def isOffset (chars : List Char) : Bool :=
  match chars with
  | [] | ['Z'] | ['z'] => true
  | sign :: rest =>
    (sign == '+' || sign == '-') &&
      match digits? 2 rest with
      | some (hour, ':' :: rest) =>
        match digits? 2 rest with
        | some (minute, []) => hour ≤ 23 && minute ≤ 59
        | _ => false
      | _ => false

/-- Whether some characters are a date, a time, or both. -/
def isDateOrTime (chars : List Char) : Bool :=
  match afterDate? chars with
  | some [] => true
  | some (mark :: rest) =>
    (mark == 'T' || mark == 't' || mark == ' ') && (afterTime? rest).any isOffset
  | none => afterTime? chars == some []

/-! ### All together -/

/-- Whether a character may stand in a literal. -/
def isLiteralChar (c : Char) : Bool :=
  c.isAlphanum || c == '+' || c == '-' || c == '_' || c == '.' || c == ':'

/-- Whether some characters are a number, a truth value, a date or a time. -/
def isLiteral (chars : List Char) : Bool :=
  chars == "true".toList || chars == "false".toList || isNumber chars || isDateOrTime chars

/-- The literal at the start of some characters, and what follows it.  A space may stand between a
date and a time. -/
def splitLiteral (chars : List Char) : List Char × List Char :=
  let first := chars.takeWhile isLiteralChar
  match afterDate? first, chars.dropWhile isLiteralChar with
  | some [], ' ' :: c :: rest =>
    if c.isDigit then
      (first ++ ' ' :: (c :: rest).takeWhile isLiteralChar, (c :: rest).dropWhile isLiteralChar)
    else (first, ' ' :: c :: rest)
  | _, rest => (first, rest)

end Toml

end CommandTree
